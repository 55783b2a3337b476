import Mathlib.Data.Finset.Basic
import Bossa.Transition.Run

/-!
# Handles and their discipline

A program takes handles from its surroundings, uses them and gives them back. A handle may
belong to another one, its parent, and then the parent must be held for as long as the
handle is. A trace of such events keeps the discipline when every handle is taken while it
is not held, used and given back while it is, and given back after what belongs to it.

An object that holds handles keeps the discipline when each of its calls leads from the
handles it owns to those it owns afterwards.
-/

namespace Resource

variable {α : Type*}

/-- What a program does with a handle. -/
inductive Event (α : Type*) where
  | acquire (h : α)
  | use (h : α)
  | release (h : α)
  deriving DecidableEq, Repr

variable [DecidableEq α] {parent : α → Option α} {held held' : Finset α}
  {trace before after : List (Event α)} {h c : α}

/-- The handles that are held after an event, unless it breaks the discipline. -/
def step (parent : α → Option α) (held : Finset α) : Event α → Option (Finset α)
  | .acquire h =>
      if h ∉ held ∧ ∀ p ∈ parent h, p ∈ held then some (insert h held) else none
  | .use h => if h ∈ held then some held else none
  | .release h =>
      if h ∈ held ∧ ∀ c ∈ held, parent c ≠ some h then some (held.erase h) else none

/-- A trace that keeps the discipline. -/
abbrev Uses (parent : α → Option α) : Finset α → List (Event α) → Finset α → Prop :=
  Transition.Run fun held e held' => step parent held e = some held'

theorem Uses.acquire (hnew : h ∉ held) (hparent : ∀ p ∈ parent h, p ∈ held) :
    Uses parent held [.acquire h] (insert h held) :=
  .snoc .nil (if_pos ⟨hnew, hparent⟩)

theorem Uses.use (hheld : h ∈ held) : Uses parent held [.use h] held :=
  .snoc .nil (if_pos hheld)

theorem Uses.release (hheld : h ∈ held) (hchildren : ∀ c ∈ held, parent c ≠ some h) :
    Uses parent held [.release h] (held.erase h) :=
  .snoc .nil (if_pos ⟨hheld, hchildren⟩)

theorem Uses.replicate (hheld : h ∈ held) :
    ∀ count : ℕ, Uses parent held (List.replicate count (.use h)) held
  | 0 => .nil
  | count + 1 => .cons (if_pos hheld) (Uses.replicate hheld count)

theorem Uses.bracket (hnew : h ∉ held) (hparent : ∀ p ∈ parent h, p ∈ held)
    (hchildren : ∀ c ∈ insert h held, parent c ≠ some h)
    (hinside : Uses parent (insert h held) trace (insert h held)) :
    Uses parent held (.acquire h :: (trace ++ [.release h])) held := by
  have hreleased : Uses parent (insert h held) [.release h] held := by
    have hrelease := Uses.release (Finset.mem_insert_self h held) hchildren
    rwa [Finset.erase_insert hnew] at hrelease
  exact (Uses.acquire hnew hparent).append (hinside.append hreleased)

theorem step_cases {e : Event α} (hstep : step parent held e = some held') :
    (∃ k, e = .acquire k ∧ k ∉ held ∧ (∀ p ∈ parent k, p ∈ held) ∧ held' = insert k held) ∨
      (∃ k, e = .use k ∧ k ∈ held ∧ held' = held) ∨
      ∃ k, e = .release k ∧ k ∈ held ∧ (∀ c ∈ held, parent c ≠ some k) ∧
        held' = held.erase k := by
  cases e with
  | acquire k =>
      obtain ⟨⟨hnew, hparent⟩, hsome⟩ := Option.ite_none_right_eq_some.mp hstep
      exact .inl ⟨k, rfl, hnew, hparent, (Option.some.inj hsome).symm⟩
  | use k =>
      obtain ⟨hheld, hsome⟩ := Option.ite_none_right_eq_some.mp hstep
      exact .inr (.inl ⟨k, rfl, hheld, (Option.some.inj hsome).symm⟩)
  | release k =>
      obtain ⟨⟨hheld, hchildren⟩, hsome⟩ := Option.ite_none_right_eq_some.mp hstep
      exact .inr (.inr ⟨k, rfl, hheld, hchildren, (Option.some.inj hsome).symm⟩)

/-- A handle has been taken once more than it was given back exactly while it is held. -/
theorem Uses.balance (huses : Uses parent held trace held') (h : α) :
    trace.count (.acquire h) + (if h ∈ held then 1 else 0) =
      trace.count (.release h) + (if h ∈ held' then 1 else 0) := by
  induction huses with
  | nil => simp
  | @snoc u v trace e _ hstep ih =>
      rw [List.count_append, List.count_append]
      rcases step_cases hstep with ⟨k, rfl, hnew, -, rfl⟩ | ⟨k, rfl, -, rfl⟩ | ⟨k, rfl, hk, -, rfl⟩
      · by_cases hhk : k = h
        · subst hhk
          rw [if_neg hnew] at ih
          simp
          omega
        · simpa [hhk, Ne.symm hhk] using ih
      · simpa using ih
      · by_cases hhk : k = h
        · subst hhk
          rw [if_pos hk] at ih
          simp
          omega
        · simpa [hhk, Ne.symm hhk] using ih

/-- The parent of a handle that is held is held. -/
def Nested (parent : α → Option α) (held : Finset α) : Prop :=
  ∀ c ∈ held, ∀ p ∈ parent c, p ∈ held

theorem Uses.nested (huses : Uses parent held trace held') (hnested : Nested parent held) :
    Nested parent held' := by
  refine Transition.Run.invariant (Q := fun _ => True) (P := Nested parent) ?_ huses
    (fun _ _ => trivial) hnested
  intro held e held' _ hnested hstep
  rcases step_cases hstep with
    ⟨k, -, -, hparent, rfl⟩ | ⟨k, -, -, rfl⟩ | ⟨k, -, -, hchildren, rfl⟩
  · intro c hc p hp
    rcases Finset.mem_insert.mp hc with rfl | hc
    · exact Finset.mem_insert_of_mem (hparent p hp)
    · exact Finset.mem_insert_of_mem (hnested c hc p hp)
  · exact hnested
  · intro c hc p hp
    have hc' := Finset.mem_of_mem_erase hc
    refine Finset.mem_erase.mpr ⟨?_, hnested c hc' p hp⟩
    rintro rfl
    exact hchildren c hc' hp

/-- What a trace looks like that starts and ends without a handle: every handle is given
back as often as it is taken and used only in between, and so is every handle that belongs to
it. A handle is given back after what belongs to it, and before it is taken again. -/
structure Clean (parent : α → Option α) (trace : List (Event α)) : Prop where
  released : ∀ h, trace.count (.release h) = trace.count (.acquire h)
  renewed : ∀ before after h, trace = before ++ .acquire h :: after →
    before.count (.acquire h) = before.count (.release h)
  once : ∀ before after h, trace = before ++ .release h :: after →
    before.count (.acquire h) = before.count (.release h) + 1
  used : ∀ before after h, trace = before ++ .use h :: after →
    before.count (.acquire h) = before.count (.release h) + 1
  inside : ∀ before after h p, trace = before ++ .use h :: after → parent h = some p →
    before.count (.acquire p) = before.count (.release p) + 1
  within : ∀ before after h p, trace = before ++ .acquire h :: after → parent h = some p →
    before.count (.acquire p) = before.count (.release p) + 1
  childless : ∀ before after h c, trace = before ++ .release h :: after → parent c = some h →
    before.count (.acquire c) = before.count (.release c)

theorem Uses.clean (huses : Uses parent ∅ trace ∅) : Clean parent trace := by
  have hcount : ∀ {before : List (Event α)} {u : Finset α} {k : α},
      Uses parent ∅ before u → k ∈ u →
      before.count (.acquire k) = before.count (.release k) + 1 := by
    intro before u k hbefore hk
    simpa [hk] using hbefore.balance k
  have hnone : ∀ {before : List (Event α)} {u : Finset α} {k : α},
      Uses parent ∅ before u → k ∉ u →
      before.count (.acquire k) = before.count (.release k) := by
    intro before u k hbefore hk
    simpa [hk] using hbefore.balance k
  refine ⟨fun h => ?_, ?_, ?_, ?_, ?_, ?_, ?_⟩
  · simpa using (huses.balance h).symm
  · rintro before after h rfl
    obtain ⟨u, v, hbefore, hstep⟩ := huses.exists_step
    exact hnone hbefore (Option.ite_none_right_eq_some.mp hstep).1.1
  · rintro before after h rfl
    obtain ⟨u, v, hbefore, hstep⟩ := huses.exists_step
    exact hcount hbefore (Option.ite_none_right_eq_some.mp hstep).1.1
  · rintro before after h rfl
    obtain ⟨u, v, hbefore, hstep⟩ := huses.exists_step
    exact hcount hbefore (Option.ite_none_right_eq_some.mp hstep).1
  · rintro before after h p rfl hp
    obtain ⟨u, v, hbefore, hstep⟩ := huses.exists_step
    have hnested : Nested parent u := Uses.nested hbefore (by simp [Nested])
    exact hcount hbefore (hnested h (Option.ite_none_right_eq_some.mp hstep).1 p hp)
  · rintro before after h p rfl hp
    obtain ⟨u, v, hbefore, hstep⟩ := huses.exists_step
    exact hcount hbefore ((Option.ite_none_right_eq_some.mp hstep).1.2 p hp)
  · rintro before after h c rfl hc
    obtain ⟨u, v, hbefore, hstep⟩ := huses.exists_step
    exact hnone hbefore fun hmem => (Option.ite_none_right_eq_some.mp hstep).1.2 c hmem hc

section Objects

variable {σ ι : Type*} {call : ι → σ → List (Event α) × σ} (owned : σ → Finset α)
  {P : σ → Prop}

/-- The events of a sequence of calls, and the object after them. -/
def callAll (call : ι → σ → List (Event α) × σ) : List ι → σ → List (Event α) × σ
  | [], s => ([], s)
  | i :: calls, s =>
      let (events, s) := call i s
      let (rest, s) := callAll call calls s
      (events ++ rest, s)

/-- An object whose calls keep an invariant and lead from the handles it owns to those it
owns afterwards keeps the discipline over any sequence of calls. -/
theorem Uses.callAll
    (hcall : ∀ i s, P s →
      P (call i s).2 ∧ Uses parent (owned s) (call i s).1 (owned (call i s).2)) :
    ∀ (calls : List ι) (s : σ), P s →
      P (Resource.callAll call calls s).2 ∧
        Uses parent (owned s) (Resource.callAll call calls s).1
          (owned (Resource.callAll call calls s).2)
  | [], _, hs => ⟨hs, .nil⟩
  | i :: calls, s, hs => by
      obtain ⟨hnext, hfirst⟩ := hcall i s hs
      obtain ⟨hlast, hrest⟩ := Uses.callAll hcall calls (call i s).2 hnext
      exact ⟨hlast, hfirst.append hrest⟩

/-- The whole life of an object that starts without a handle and gives back what it owns. -/
theorem Uses.life
    (hcall : ∀ i s, P s →
      P (call i s).2 ∧ Uses parent (owned s) (call i s).1 (owned (call i s).2))
    {destroy : σ → List (Event α)}
    (hdestroy : ∀ s, P s → Uses parent (owned s) (destroy s) ∅) {s : σ} (hs : P s)
    (hnone : owned s = ∅) (calls : List ι) :
    Clean parent ((Resource.callAll call calls s).1 ++
      destroy (Resource.callAll call calls s).2) := by
  obtain ⟨hlast, huses⟩ := Uses.callAll owned hcall calls s hs
  rw [hnone] at huses
  exact Uses.clean (huses.append (hdestroy _ hlast))

end Objects

end Resource
