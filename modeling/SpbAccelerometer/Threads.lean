import Mathlib.Logic.Relation
import Mathlib.Logic.Function.Iterate

/-!
# Threads on a shared state

The driver's code runs on several threads at once: the queue dispatches the requests of the
framework in parallel, and the interrupt work item and the report manager's thread run
beside them.  A thread is a value of a type `τ`, its program counter and its locals, and
`step t s` is its next atomic step on the shared state `s`: a step made under one of the
driver's locks, or one that touches nothing another thread can see.  A schedule is a list of
thread indices, and `Threads.run` makes their steps in order.

`Threads.run_induction` carries what one step keeps to every schedule, and
`Threads.run_replicate_of_runs` says that the steps of one thread with no other in between
are its steps alone (`Threads.Runs`).
-/

namespace SpbAccelerometer

/-- Threads of type `τ` on a shared state of type `σ`. -/
structure Threads (σ τ : Type) where
  shared : σ
  threads : List τ

/-- Thread `i` for `n₀` steps, then thread `i + 1` for `n₁` steps, and so on. -/
def serial : List Nat → Nat → List Nat
  | [], _ => []
  | n :: ns, i => List.replicate n i ++ serial ns (i + 1)

namespace Threads

variable {σ τ : Type} (step : τ → σ → τ × σ)

/-- Thread `i` makes its next step; an index with no thread changes nothing. -/
def stepThread (s : Threads σ τ) (i : Nat) : Threads σ τ :=
  match s.threads[i]? with
  | some t =>
    let r := step t s.shared
    ⟨r.2, s.threads.set i r.1⟩
  | none => s

/-- The threads after the steps of a schedule. -/
def run (s : Threads σ τ) (schedule : List Nat) : Threads σ τ :=
  schedule.foldl (stepThread step) s

theorem run_append (s : Threads σ τ) (a b : List Nat) :
    s.run step (a ++ b) = (s.run step a).run step b :=
  List.foldl_append ..

/-- What every step keeps holds after every schedule. -/
theorem run_induction (P : Threads σ τ → Prop) (hstep : ∀ s i, P s → P (s.stepThread step i))
    {s : Threads σ τ} (hs : P s) (schedule : List Nat) : P (s.run step schedule) := by
  induction schedule generalizing s with
  | nil => exact hs
  | cons i rest ih => exact ih (hstep s i hs)

/-- A step of a thread keeps a property of the shared state and the threads when its own
step keeps it. -/
theorem stepThread_induction (P : Threads σ τ → Prop)
    (hstep : ∀ s i t, s.threads[i]? = some t →
      P s → P ⟨(step t s.shared).2, s.threads.set i (step t s.shared).1⟩)
    (s : Threads σ τ) (i : Nat) (hs : P s) : P (s.stepThread step i) := by
  unfold stepThread
  split
  · exact hstep s i _ ‹_› hs
  · exact hs

/-- One thread running alone goes from `p` to `q`. -/
def Runs : τ × σ → τ × σ → Prop :=
  Relation.ReflTransGen fun p q => step p.1 p.2 = q

theorem Runs.next {p q : τ × σ} (h : Runs step (step p.1 p.2) q) : Runs step p q :=
  .head rfl h

theorem Runs.trans {p q r : τ × σ} (h₁ : Runs step p q) (h₂ : Runs step q r) : Runs step p r :=
  Relation.ReflTransGen.trans h₁ h₂

/-- `n` steps of a thread alone. -/
theorem Runs.iterate (n : Nat) (p : τ × σ) : Runs step p ((fun q => step q.1 q.2)^[n] p) := by
  induction n generalizing p with
  | zero => exact .refl
  | succ n ih => exact .head rfl (ih _)

theorem set_self_of_getElem? {l : List τ} {i : Nat} {t : τ} (h : l[i]? = some t) :
    l.set i t = l := by
  apply List.ext_getElem?
  intro j
  rw [List.getElem?_set]
  split_ifs with hij hi
  · rw [← hij, h]
  · subst hij; simp_all [List.getElem?_eq_none]
  · rfl

/-- Counting the threads with a property after thread `i` changed from `a` to `b`. -/
theorem countP_set {p : τ → Bool} {l : List τ} {i : Nat} {a b : τ} (h : l[i]? = some a) :
    (l.set i b).countP p + (if p a then 1 else 0) = l.countP p + (if p b then 1 else 0) := by
  induction l generalizing i with
  | nil => simp at h
  | cons x xs ih =>
    cases i with
    | zero =>
      obtain rfl : x = a := by simpa using h
      simp only [List.set_cons_zero, List.countP_cons]
      omega
    | succ i =>
      have := ih (by simpa using h)
      simp only [List.set_cons_succ, List.countP_cons]
      omega

/-- Steps of thread `i` with no other thread in between are the steps of the thread alone. -/
theorem run_replicate_of_runs {i : Nat} {p q : τ × σ} (h : Runs step p q) :
    ∀ s : Threads σ τ, s.shared = p.2 → s.threads[i]? = some p.1 →
      ∃ n, s.run step (List.replicate n i) = ⟨q.2, s.threads.set i q.1⟩ := by
  induction h using Relation.ReflTransGen.head_induction_on with
  | refl =>
    rintro ⟨d, ts⟩ rfl hi
    exact ⟨0, by rw [set_self_of_getElem? hi]; rfl⟩
  | @head a a' hstep _ ih =>
    rintro ⟨d, ts⟩ hd hi
    subst hd
    have hs : stepThread step ⟨a.2, ts⟩ i = ⟨a'.2, ts.set i a'.1⟩ := by
      simp only [stepThread, hi]
      rw [← hstep]
    have hlt : i < ts.length := (List.getElem?_eq_some_iff.mp hi).1
    obtain ⟨n, hn⟩ := ih _ (congrArg Threads.shared hs) (by rw [hs, List.getElem?_set_self hlt])
    rw [hs] at hn
    refine ⟨n + 1, ?_⟩
    rw [List.replicate_succ, run, List.foldl_cons, ← run, hs, hn, List.set_set]

end Threads

end SpbAccelerometer
