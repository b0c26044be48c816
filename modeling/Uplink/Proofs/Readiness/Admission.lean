import Uplink.Proofs.Readiness.Run
import Uplink.Proofs.Readiness.Write

/-!
# Who is admitted

A coordinator is set up once until it is reset. Every call begins by asking to be admitted, and that
is a single step: it reads and takes the claim in one. So it does not matter how many calls there
are, or how their steps mix. The argument is an account. Each admitted call was admitted with a claim
that was free, and a claim that is taken only becomes free again by the last write of a reset, of
which each reset makes one.

A call that is not admitted is over with that one step. It asks nothing of the outside, gives nothing
back and leaves the cells as they are.

## Main definitions

- `Thread.isAdmitted`, `System.admissions`: the calls that got past the guard.
- `Thread.hasBegun`: the calls that have taken their first step.
- `resetsIn`: how many resets come in during a run.
- `System.Accounted`: how many calls may have been admitted, and that there was one.

## Main results

- `System.Accounted.run?`: the account is true of every run.
- `Thread.step_of_unadmitted`: a call that stays outside does nothing.
- `single_admission`: at most one admission for each reset and one more; exactly one without resets.
-/

namespace Uplink.Readiness

variable {cfg : Config}

/-- Whether a call got past the guard. -/
def Caller.isAdmitted : Caller → Bool
  | claim _ | returned (.refused .alreadySetUp) => false
  | _ => true

/-- Whether a call has taken its first step. -/
def Caller.hasBegun : Caller → Bool
  | claim _ => false
  | _ => true

namespace Thread

/-- Whether a thread is a call that got past the guard. -/
def isAdmitted : Thread → Bool
  | caller t => t.isAdmitted
  | _ => false

/-- Whether a thread is a call that did not get past the guard, or not yet. -/
def isOutside : Thread → Bool
  | caller t => !t.isAdmitted
  | _ => false

/-- Whether a thread is a call that has taken its first step. -/
def hasBegun : Thread → Bool
  | caller t => t.hasBegun
  | _ => false

/-- Whether a thread is a reset that has not opened the coordinator yet. -/
def reopens : Thread → Bool
  | reset t => t != .done
  | _ => false

end Thread

/-- How many calls got past the guard. -/
def System.admissions (s : System) : Nat := s.threads.countP Thread.isAdmitted

/-- How many resets come in during these events. -/
def resetsIn (es : List (Event cfg)) : Nat := es.countP (·.isReset)

@[simp] theorem resetsIn_nil : resetsIn ([] : List (Event cfg)) = 0 := rfl

@[simp] theorem resetsIn_cons (e : Event cfg) (es : List (Event cfg)) :
    resetsIn (e :: es) = resetsIn es + e.isReset.toNat := by
  cases reset : e.isReset <;> simp [resetsIn, reset]

/-- No reset comes in during a calm run. -/
theorem Calm.resetsIn_eq {es : List (Event cfg)} (calm : Calm es) : resetsIn es = 0 :=
  List.countP_eq_zero.mpr fun e mem reset => Bool.noConfusion ((calm e mem).symm.trans reset)

/-! ## One step -/

variable {c : Cells}

/-- No ending sends its caller away as if the coordinator had been set up before. -/
theorem Caller.isAdmitted_verdict (e : Ending) (target : InterfaceKind) (mode : Mode) :
    (returned (e.verdict target mode)).isAdmitted = true := by
  rcases e with _ | _ | _ | _ <;> cases mode <;> rfl

/-- A call that has begun keeps its admission, or stays without one. -/
theorem Caller.isAdmitted_step {t : Caller} (begun : t.hasBegun = true)
    (reply : (t.request cfg).Reply) : (t.step cfg c reply).next.isAdmitted = t.isAdmitted := by
  cases t with
  | claim s => cases begun
  | find s a =>
    cases reply with
    | error cause => rfl
    | ok interfaces =>
      simp only [step, stepFind]
      split
      · rfl
      · cases a <;> rfl
  | subscribe | assign | setServers | startWorker | checkToken | checkTokenForClock =>
    cases reply <;> rfl
  | settle s r => cases r <;> rfl
  | poll s =>
    cases reply with
    | error cause => rfl
    | ok interfaces =>
      simp only [step, stepPoll]
      split <;> rfl
  | observe s =>
    simp only [step, stepObserve]
    split <;> rfl
  | readClock s =>
    simp only [step, stepClock]
    split <;> rfl
  | conclude s e stage =>
    cases stage with
    | release => cases e <;> rfl
    | keepFault => rfl
    | publish => rfl
    | settle => exact isAdmitted_verdict e cfg.target s.mode
  | _ => rfl

/-- A call is admitted exactly if it finds the claim free. -/
theorem Caller.isAdmitted_stepClaim (s : Setup) (c : Cells) :
    (stepClaim s c).next.isAdmitted = !c.claimed := by
  rw [stepClaim]
  cases c.claimed with
  | true => rfl
  | false => cases mode : s.mode <;> rfl

/-- The claim is taken after a call has asked for it. -/
theorem Caller.claimed_stepClaim (s : Setup) (c : Cells) :
    (stepClaim s c).cells.claimed = true := by
  rw [stepClaim]
  split
  · assumption
  · rfl

/-- A call that has begun does not touch the claim. -/
theorem Caller.claimed_written {t : Caller} (begun : t.hasBegun = true) (c : Cells) :
    (t.written c).claimed = c.claimed := by
  cases t with
  | claim s => cases begun
  | conclude s e stage => cases stage <;> rfl
  | _ => rfl

/-- Nor does a worker. -/
theorem Worker.claimed_written (t : Worker) (c : Cells) : (t.written c).claimed = c.claimed := by
  cases t with
  | conclude j e stage => cases stage <;> rfl
  | _ => rfl

namespace Thread

/-- A call that got past the guard has begun. -/
theorem hasBegun_of_isAdmitted {t : Thread} (admitted : t.isAdmitted = true) :
    t.hasBegun = true := by
  rcases t with t | t | t | t
  · cases t with
    | claim s => cases admitted
    | _ => rfl
  · cases admitted
  · cases admitted
  · cases admitted

/-- A call that got past the guard stays so. -/
theorem isAdmitted_step {t : Thread} (admitted : t.isAdmitted = true)
    (reply : (t.request cfg).Reply) : (t.step cfg c reply).next.isAdmitted = true := by
  have begun := hasBegun_of_isAdmitted admitted
  rcases t with t | t | t | t
  · exact (Caller.isAdmitted_step begun reply).trans admitted
  · cases admitted
  · cases admitted
  · cases admitted

/-- Nobody gets outside the guard who was not there before. -/
theorem isOutside_step {t : Thread} (inside : t.isOutside = false)
    (reply : (t.request cfg).Reply) : (t.step cfg c reply).next.isOutside = false := by
  rcases t with t | t | t | t
  · have admitted : (caller t).isAdmitted = true := (Bool.not_eq_false' _).mp inside
    exact (Bool.not_eq_false' _).mpr (isAdmitted_step admitted reply)
  · rfl
  · rfl
  · rfl

/-- A call that is outside the guard and stays there asks nothing, gives nothing back and writes
nothing. -/
theorem step_of_isOutside {t : Thread} (reply : (t.request cfg).Reply)
    (outside : t.isOutside = true) (stays : (t.step cfg c reply).next.isOutside = true) :
    t.request cfg = .nothing ∧ (t.step cfg c reply).unsubscribed = none ∧
      (t.step cfg c reply).cells = c := by
  rcases t with t | t | t | t
  · cases t with
    | claim s =>
      have refused : (!(Caller.stepClaim s c).next.isAdmitted) = true := stays
      rw [Caller.isAdmitted_stepClaim, Bool.not_not] at refused
      refine ⟨rfl, ?_, ?_⟩
      · rw [unsubscribed_step]
        rfl
      · rw [cells_step]
        simp [written, Caller.written, ← refused]
    | returned v => exact ⟨rfl, rfl, rfl⟩
    | _ => cases outside
  · cases outside
  · cases outside
  · cases outside

/-- An admission takes the claim, and only the last write of a reset frees it. -/
theorem account_step (t : Thread) (reply : (t.request cfg).Reply) :
    (t.step cfg c reply).next.isAdmitted.toNat + (t.step cfg c reply).next.reopens.toNat +
        c.claimed.toNat ≤
      t.isAdmitted.toNat + t.reopens.toNat + (t.step cfg c reply).cells.claimed.toNat := by
  rcases t with t | t | t | t
  · cases begun : t.hasBegun with
    | true =>
      have same : (step cfg c (caller t) reply).next.isAdmitted = t.isAdmitted :=
        Caller.isAdmitted_step begun reply
      have kept : (step cfg c (caller t) reply).cells.claimed = c.claimed := by
        rw [cells_step]
        exact Caller.claimed_written begun c
      rw [same, kept]
      exact Nat.le_refl _
    | false =>
      cases t with
      | claim s =>
        have admitted : (step cfg c (caller (.claim s)) reply).next.isAdmitted = !c.claimed :=
          Caller.isAdmitted_stepClaim s c
        have taken : (step cfg c (caller (.claim s)) reply).cells.claimed = true :=
          Caller.claimed_stepClaim s c
        rw [admitted, taken]
        cases c.claimed <;> exact Nat.le_refl _
      | _ => cases begun
  · have kept : (step cfg c (worker t) reply).cells.claimed = c.claimed := by
      rw [cells_step]
      exact t.claimed_written c
    rw [kept]
    exact Nat.le_refl _
  · cases t with
    | reopen =>
      show 0 + 0 + c.claimed.toNat ≤ 1
      simpa using Bool.toNat_le c.claimed
    | _ => exact Nat.le_refl _
  · rw [cells_step]
    exact Nat.le_refl _

/-- Whoever takes the claim, or begins while it is free, is admitted. -/
theorem isAdmitted_of_step {t : Thread} (reply : (t.request cfg).Reply)
    (free : c.claimed = false) (fresh : t.hasBegun = false)
    (used : (t.step cfg c reply).cells.claimed = true ∨
      (t.step cfg c reply).next.hasBegun = true) :
    (t.step cfg c reply).next.isAdmitted = true := by
  rcases t with t | t | t | t
  · cases t with
    | claim s =>
      have admitted := Caller.isAdmitted_stepClaim s c
      rw [free] at admitted
      exact admitted
    | _ => cases fresh
  · rcases used with claimed | begun
    · rw [cells_step] at claimed
      exact Bool.noConfusion (claimed.symm.trans ((t.claimed_written c).trans free))
    · cases begun
  · rcases used with claimed | begun
    · cases t with
      | reopen => cases claimed
      | _ => exact Bool.noConfusion (claimed.symm.trans free)
    · cases begun
  · rcases used with claimed | begun
    · rw [cells_step] at claimed
      exact Bool.noConfusion (claimed.symm.trans free)
    · cases begun

/-- Only callers that are past the guard start workers, and a worker is no call. -/
theorem count_started (p : Thread → Bool) (outside : ∀ w, p (worker w) = false) (t : Thread)
    (reply : (t.request cfg).Reply) :
    ((t.started? cfg reply).map worker).toList.countP p = 0 := by
  cases t.started? cfg reply with
  | none => rfl
  | some w => simp [outside w]

end Thread

/-! ## The account of a run -/

namespace System

variable {s s' : System} {n : Nat} {e : Event cfg} {es : List (Event cfg)}

/-- So many resets have come in so far; how many calls may have been admitted then, and when at
least one was. -/
structure Accounted (s : System) (n : Nat) : Prop where
  /-- A reset that is still to open the coordinator is not spent. -/
  most : s.admissions + s.threads.countP Thread.reopens ≤ n + s.cells.claimed.toNat
  claimed : s.cells.claimed = true → 0 < s.admissions
  begun : ∀ t ∈ s.threads, t.hasBegun = true → 0 < s.admissions

/-- A new coordinator has admitted nobody. -/
theorem Accounted.fresh : Accounted {} 0 where
  most := Nat.le_refl _
  claimed claimed := by cases claimed
  begun := by simp

/-- What a turn does to the number of admissions. -/
theorem admissions_advance {i : Nat} {t : Thread} (present : s.threads[i]? = some t)
    (reply : (t.request cfg).Reply) :
    (s.advance cfg i t reply).admissions + t.isAdmitted.toNat =
      s.admissions + (t.step cfg s.cells reply).next.isAdmitted.toNat := by
  have count := countP_set_append (a := (t.step cfg s.cells reply).next)
    (o := (t.started? cfg reply).map Thread.worker) Thread.isAdmitted present
  rw [Thread.count_started Thread.isAdmitted fun _ => rfl] at count
  exact count

/-- No turn takes an admission back. -/
theorem admissions_le_advance {i : Nat} {t : Thread} (present : s.threads[i]? = some t)
    (reply : (t.request cfg).Reply) : s.admissions ≤ (s.advance cfg i t reply).admissions := by
  have count := admissions_advance present reply
  cases admitted : t.isAdmitted with
  | false =>
    rw [admitted] at count
    exact Nat.le.intro count.symm
  | true =>
    rw [admitted, Thread.isAdmitted_step admitted reply] at count
    omega

namespace Accounted

/-- Whoever takes the claim or begins is admitted itself, unless somebody was before. -/
theorem admissions_pos_advance (account : s.Accounted n) {i : Nat} {t : Thread}
    (present : s.threads[i]? = some t) (reply : (t.request cfg).Reply)
    (used : (t.step cfg s.cells reply).cells.claimed = true ∨
      (t.step cfg s.cells reply).next.hasBegun = true) :
    0 < (s.advance cfg i t reply).admissions := by
  have more := admissions_le_advance present reply
  cases claimed : s.cells.claimed with
  | true => exact Nat.lt_of_lt_of_le (account.claimed claimed) more
  | false =>
    cases begun : t.hasBegun with
    | true => exact Nat.lt_of_lt_of_le (account.begun t (List.mem_of_getElem? present) begun) more
    | false =>
      have admitted := Thread.isAdmitted_of_step reply claimed begun used
      exact List.countP_pos_iff.mpr
        ⟨_, List.mem_of_getElem? (getElem?_advance_self present), admitted⟩

/-- The account after a turn. -/
theorem turn (account : s.Accounted n) {i : Nat} {t : Thread} (present : s.threads[i]? = some t)
    (reply : (t.request cfg).Reply) : (s.advance cfg i t reply).Accounted n where
  most := by
    have admissions := admissions_advance present reply
    have resets := countP_set_append (a := (t.step cfg s.cells reply).next)
      (o := (t.started? cfg reply).map Thread.worker) Thread.reopens present
    rw [Thread.count_started Thread.reopens fun _ => rfl] at resets
    have step := t.account_step (c := s.cells) reply
    have before := account.most
    rw [threads_advance, cells_advance]
    omega
  claimed claimed := account.admissions_pos_advance present reply (.inl claimed)
  begun := by
    intro u mem begun
    obtain ⟨j, found⟩ := List.mem_iff_getElem?.mp mem
    rcases getElem?_advance found with ⟨-, rfl⟩ | ⟨-, old⟩ | ⟨-, w, -, rfl⟩
    · exact account.admissions_pos_advance present reply (.inr begun)
    · exact Nat.lt_of_lt_of_le (account.begun u (List.mem_of_getElem? old) begun)
        (admissions_le_advance present reply)
    · cases begun

/-- The account after a newcomer has come in. -/
theorem join (account : s.Accounted n) (newcomer : Newcomer) :
    (s.join newcomer).Accounted (n + (newcomer == .reset).toNat) := by
  have admissions : (s.join newcomer).admissions = s.admissions := by
    rw [System.admissions, threads_join, List.countP_append]
    cases newcomer <;> rfl
  constructor
  case most =>
    have before := account.most
    rw [admissions, threads_join, List.countP_append, cells_join]
    cases newcomer with
    | call setup => exact before
    | reset =>
      show s.admissions + (s.threads.countP Thread.reopens + 1) ≤ n + 1 + s.cells.claimed.toNat
      omega
    | watch => exact before
  case claimed =>
    intro claimed
    rw [admissions]
    exact account.claimed claimed
  case begun =>
    rw [admissions]
    refine forall_mem_concat account.begun ?_
    cases newcomer <;> nofun

/-- The account after an event. -/
theorem after? (account : s.Accounted n) (after : s.after? e = some s') :
    s'.Accounted (n + e.isReset.toNat) := by
  cases e with
  | turn i t reply =>
    obtain ⟨present, rfl⟩ := after?_turn_eq_some.mp after
    exact account.turn present reply
  | enter newcomer =>
    cases after
    cases newcomer with
    | call setup => exact account.join (.call setup)
    | reset => exact account.join .reset
    | watch => exact account.join .watch

/-- The account is true of every run. -/
theorem run? (account : s.Accounted n) (run : s.run? es = some s') :
    s'.Accounted (n + resetsIn es) := by
  induction es generalizing s n with
  | nil =>
    cases run
    exact account
  | cons e es ih =>
    obtain ⟨next, after, rest⟩ := runFrom?_cons_eq_some.mp run
    rw [resetsIn_cons, Nat.add_comm (resetsIn es), ← Nat.add_assoc]
    exact ih (account.after? after) rest

end Accounted

/-- Who is inside the guard once is inside it ever after. -/
theorem isOutside_run? {i : Nat} {t : Thread} (present : s.threads[i]? = some t)
    (inside : t.isOutside = false) (run : s.run? es = some s') :
    ∃ t', s'.threads[i]? = some t' ∧ t'.isOutside = false := by
  refine runFrom?_preserves (fun _ => True)
    (fun m => ∃ u, m.threads[i]? = some u ∧ u.isOutside = false) ?_ run (fun _ _ => trivial)
    ⟨t, present, inside⟩
  rintro m e m' ⟨u, there, inside⟩ - after
  cases own : e.isTurnOf i with
  | false => exact ⟨u, thread_after? there own after, inside⟩
  | true =>
    cases e with
    | enter newcomer => cases own
    | turn j v reply =>
      obtain rfl : i = j := by simpa [Event.isTurnOf] using own
      obtain ⟨found, rfl⟩ := after?_turn_eq_some.mp after
      cases there.symm.trans found
      exact ⟨_, getElem?_advance_self there, Thread.isOutside_step inside reply⟩

end System

/-- However many calls there are, from whatever threads, and however their steps mix with those of
everybody else: with so many resets there is at most one admission more than resets; without resets
exactly one call is admitted as soon as any has begun. And a call that has begun and was not
admitted has been told that the coordinator was set up before; in none of its turns did it ask
anything of the outside, give a subscription back or write a cell. -/
theorem single_admission {es : List (Event cfg)} {s : System}
    (reached : System.run? {} es = some s) :
    s.admissions ≤ resetsIn es + 1 ∧
    (Calm es → (∃ t ∈ s.threads, t.hasBegun = true) → s.admissions = 1) ∧
    ∀ i t, s.threads[i]? = some (.caller t) → t.hasBegun = true → t.isAdmitted = false →
      t = .returned (.refused .alreadySetUp) ∧
      ∀ before u reply after m, es = before ++ .turn i u reply :: after →
        System.run? {} before = some m →
          u.request cfg = .nothing ∧ (u.step cfg m.cells reply).unsubscribed = none ∧
            (u.step cfg m.cells reply).cells = m.cells := by
  have account := System.Accounted.fresh.run? reached
  have most : s.admissions ≤ resetsIn es + 1 := by
    have := account.most
    have := Bool.toNat_le s.cells.claimed
    omega
  refine ⟨most, ?_, ?_⟩
  · rintro calm ⟨t, mem, begun⟩
    have least := account.begun t mem begun
    rw [calm.resetsIn_eq] at most
    omega
  · intro i t present begun refused
    constructor
    · cases t with
      | claim setup => cases begun
      | returned v =>
        cases v with
        | refused e => cases e <;> first | rfl | cases refused
        | _ => cases refused
      | _ => cases refused
    · rintro before u reply after m rfl run
      obtain ⟨m', start, rest⟩ := runFrom?_append_eq_some.mp reached
      obtain rfl := Option.some.inj (run.symm.trans start)
      obtain ⟨next, turn, rest⟩ := runFrom?_cons_eq_some.mp rest
      obtain ⟨there, rfl⟩ := System.after?_turn_eq_some.mp turn
      -- Who is outside in the end was outside before its turn and after it.
      have outside {n : System} {v : Thread} {fs : List (Event cfg)} (found : n.threads[i]? = some v)
          (run : n.run? fs = some s) : v.isOutside = true := by
        refine Bool.not_eq_false _ ▸ fun inside => ?_
        obtain ⟨t', last, still⟩ := System.isOutside_run? found inside run
        cases present.symm.trans last
        simp [Thread.isOutside, refused] at still
      exact Thread.step_of_isOutside reply
        (outside there (runFrom?_cons_eq_some.mpr ⟨_, turn, rest⟩))
        (outside (System.getElem?_advance_self there) rest)

/-- Two calls at once: the one that came first is the second to ask. -/
def twoCalls : List (Event {}) :=
  [.enter (.call subscribed),
    .enter (.call subscribed),
    .turn 1 (.caller (.claim subscribed)) (),
    .turn 0 (.caller (.claim subscribed)) (),
    .turn 1 (.caller (.readGeneration subscribed)) ()]

/-- It is sent away, and its turn does nothing. -/
theorem single_admission_of_two : ∃ s m : System, System.run? {} twoCalls = some s ∧
    System.run? {} (twoCalls.take 3) = some m ∧ s.admissions = 1 ∧
    s.threads[0]? = some (.caller (.returned (.refused .alreadySetUp))) ∧
    ((Thread.caller (.claim subscribed)).step {} m.cells ()).cells = m.cells := by
  obtain ⟨-, once, outside⟩ := @single_admission {} twoCalls _ rfl
  obtain ⟨-, silent⟩ := outside 0 (.returned (.refused .alreadySetUp)) rfl rfl rfl
  obtain ⟨-, -, same⟩ := silent (twoCalls.take 3) (.caller (.claim subscribed)) () _ _ rfl rfl
  exact ⟨_, _, rfl, rfl, once (by decide) ⟨_, List.mem_of_getElem? (i := 0) rfl, rfl⟩, rfl, same⟩

end Uplink.Readiness
