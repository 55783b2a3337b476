import Mathlib.Data.List.InsertIdx
import Mathlib.Data.List.MinMax

/-!
# Keeping the best elements of a stream

`best key c l` lists the `c` best elements of `l` in their own order, where a
higher key is better and, among equal keys, a later element is better. The rank
of an element is the number of elements better than it, and the best are those
of rank below `c`.

`push key c l x` is the local rule that maintains such a list with one new
element at a time: below `c` elements it appends, and otherwise it either
refuses the new element or erases the earliest one of minimal key. The main
theorem says that the local rule computes the global selection.
-/

namespace Selection

variable {α β : Type*} [LinearOrder β] (key : α → β)

/-- The number of elements better than `a`, which stands between `before` and
`after`: earlier ones need a higher key, later ones at least the same. -/
def rank (before after : List α) (a : α) : ℕ :=
  before.countP (fun b => key a < key b) + after.countP (fun b => key a ≤ key b)

/-- The elements of the second list whose rank is below `c`; the first list
holds what stands before it. -/
def bestFrom (c : ℕ) (before : List α) : List α → List α
  | [] => []
  | a :: after =>
      if rank key before after a < c then a :: bestFrom c (before ++ [a]) after
      else bestFrom c (before ++ [a]) after

/-- The `c` best elements of a list, in order. -/
def best (c : ℕ) (l : List α) : List α := bestFrom key c [] l

/-- The position of the earliest element of minimal key. -/
def earliestMin (l : List α) : ℕ :=
  l.findIdx fun a => l.all fun b => key a ≤ key b

/-- The element a full list gives up for `x`, if any element is better than the
others: the new one when its key is below all keys, and the earliest element of
minimal key otherwise. -/
def victim (l : List α) (x : α) : Option α :=
  if l.all fun a => key x < key a then some x else l[earliestMin key l]?

/-- Adding an element to a list of at most `c` elements. -/
def push (c : ℕ) (l : List α) (x : α) : List α :=
  if l.length < c then l ++ [x]
  else if l.all fun a => key x < key a then l
  else l.eraseIdx (earliestMin key l) ++ [x]

theorem exists_min {l : List α} (hl : l ≠ []) : ∃ a ∈ l, ∀ b ∈ l, key a ≤ key b := by
  cases h : l.argmin key with
  | none => exact absurd (List.argmin_eq_none.mp h) hl
  | some a => exact ⟨a, List.argmin_mem h, fun b hb => List.le_of_mem_argmin hb h⟩

theorem earliestMin_lt_length {l : List α} (hl : l ≠ []) :
    earliestMin key l < l.length := by
  obtain ⟨a, ha, hle⟩ := exists_min key hl
  exact List.findIdx_lt_length_of_exists ⟨a, ha, by simpa using hle⟩

/-- A nonempty list splits at the earliest element of minimal key. -/
theorem earliestMin_split {l : List α} (hl : l ≠ []) :
    ∃ l₁ w l₂, l = l₁ ++ w :: l₂ ∧ earliestMin key l = l₁.length ∧
      (∀ a ∈ l₁, key w < key a) ∧ ∀ a ∈ l₂, key w ≤ key a := by
  have hlt := earliestMin_lt_length key hl
  have hmin : ∀ b ∈ l, key l[earliestMin key l] ≤ key b := by
    have h := List.findIdx_getElem (w := hlt)
    simp only [List.all_eq_true, decide_eq_true_eq] at h
    exact h
  refine ⟨l.take (earliestMin key l), l[earliestMin key l],
    l.drop (earliestMin key l + 1), ?_, ?_, ?_, ?_⟩
  · simp
  · rw [List.length_take, min_eq_left hlt.le]
  · intro a ha
    obtain ⟨i, hi, rfl⟩ := List.mem_take_iff_getElem.mp ha
    have hnot : (l.all fun b => key l[i] ≤ key b) = false :=
      List.not_of_lt_findIdx (lt_min_iff.mp hi).1
    obtain ⟨b, hb, hlt'⟩ := List.all_eq_false.mp hnot
    exact (hmin b hb).trans_lt (by simpa using hlt')
  · intro a ha
    exact hmin a (List.mem_of_mem_drop ha)

theorem rank_le (before after : List α) (a : α) :
    rank key before after a ≤ before.length + after.length :=
  Nat.add_le_add List.countP_le_length List.countP_le_length

theorem bestFrom_of_length_le (c : ℕ) :
    ∀ before l : List α, before.length + l.length ≤ c → bestFrom key c before l = l
  | _, [], _ => rfl
  | before, a :: after, h => by
      have hrank := rank_le key before after a
      rw [List.length_cons] at h
      rw [bestFrom, if_pos (by omega),
        bestFrom_of_length_le c (before ++ [a]) after (by simp; omega)]

theorem bestFrom_sublist (c : ℕ) :
    ∀ before l : List α, (bestFrom key c before l).Sublist l
  | _, [] => .slnil
  | before, a :: after => by
      have hrest := bestFrom_sublist c (before ++ [a]) after
      rw [bestFrom]
      split
      · exact hrest.cons_cons a
      · exact hrest.cons a

theorem best_sublist (c : ℕ) (l : List α) : (best key c l).Sublist l :=
  bestFrom_sublist key c [] l

theorem best_of_length_le {c : ℕ} {l : List α} (h : l.length ≤ c) : best key c l = l :=
  bestFrom_of_length_le key c [] l (by simpa using h)

/-- An element behind which no other counts it as better may be dropped from
what stands before. -/
theorem bestFrom_drop_before (c : ℕ) (before₁ : List α) (w : α) :
    ∀ before₂ l : List α, (∀ a ∈ l, key w ≤ key a) →
      bestFrom key c (before₁ ++ w :: before₂) l = bestFrom key c (before₁ ++ before₂) l
  | _, [], _ => rfl
  | before₂, a :: after, h => by
      have hrank : rank key (before₁ ++ w :: before₂) after a =
          rank key (before₁ ++ before₂) after a := by
        have hw : ¬ key a < key w := not_lt.mpr (h a (by simp))
        simp [rank, hw]
      have ih := bestFrom_drop_before c before₁ w (before₂ ++ [a]) after
        fun b hb => h b (by simp [hb])
      simp only [bestFrom, hrank, List.append_assoc, List.cons_append] at ih ⊢
      rw [ih]

/-- The worst element of a list that is too long is not among the best. -/
theorem bestFrom_erase_worst (c : ℕ) {w : α} {l₂ : List α} (h₂ : ∀ a ∈ l₂, key w ≤ key a) :
    ∀ before l₁ : List α, (∀ a ∈ before, key w < key a) → (∀ a ∈ l₁, key w < key a) →
      c ≤ before.length + l₁.length + l₂.length →
      bestFrom key c before (l₁ ++ w :: l₂) = bestFrom key c before (l₁ ++ l₂)
  | before, [], hbefore, _, hc => by
      have hrank : rank key before l₂ w = before.length + l₂.length := by
        rw [rank, List.countP_eq_length.mpr (by simpa using hbefore),
          List.countP_eq_length.mpr (by simpa using h₂)]
      rw [List.nil_append, List.nil_append, bestFrom, hrank,
        if_neg (by simpa using hc), bestFrom_drop_before key c before w [] l₂ h₂,
        List.append_nil]
  | before, a :: l₁, hbefore, hl₁, hc => by
      have ha : ¬ key a ≤ key w := not_le.mpr (hl₁ a (by simp))
      have hrank : rank key before (l₁ ++ w :: l₂) a = rank key before (l₁ ++ l₂) a := by
        simp [rank, ha]
      have ih := bestFrom_erase_worst c h₂ (before ++ [a]) l₁
        (by
          intro b hb
          rcases List.mem_append.mp hb with hb | hb
          · exact hbefore b hb
          · exact hl₁ b (by simp [List.mem_singleton.mp hb]))
        (fun b hb => hl₁ b (by simp [hb]))
        (by simp only [List.length_append, List.length_cons, List.length_nil] at hc ⊢; omega)
      simp only [List.cons_append, bestFrom, hrank, ih]

theorem best_erase_worst {c : ℕ} {l₁ l₂ : List α} {w : α} (h₁ : ∀ a ∈ l₁, key w < key a)
    (h₂ : ∀ a ∈ l₂, key w ≤ key a) (hc : c ≤ l₁.length + l₂.length) :
    best key c (l₁ ++ w :: l₂) = best key c (l₁ ++ l₂) :=
  bestFrom_erase_worst key c h₂ [] l₁ (by simp) h₁ (by simpa using hc)

theorem best_append_of_lt {c : ℕ} {l : List α} {x : α} (h : ∀ a ∈ l, key x < key a)
    (hc : c ≤ l.length) : best key c (l ++ [x]) = best key c l := by
  have hnil : ∀ a ∈ ([] : List α), key x ≤ key a := by simp
  have hworst := best_erase_worst key h hnil (by simpa using hc)
  rwa [List.append_nil] at hworst

theorem push_of_length_lt {c : ℕ} {l : List α} {x : α} (h : l.length < c) :
    push key c l x = l ++ [x] := by
  rw [push, if_pos h]

theorem push_refuse {c : ℕ} {l : List α} {x : α} (hc : c ≤ l.length)
    (h : ∀ a ∈ l, key x < key a) : push key c l x = l := by
  rw [push, if_neg (by omega), if_pos (by simpa using h)]

theorem push_evict {c : ℕ} {l : List α} {x : α} (hc : c ≤ l.length)
    (h : ∃ a ∈ l, key a ≤ key x) :
    push key c l x = l.eraseIdx (earliestMin key l) ++ [x] := by
  obtain ⟨a, ha, hle⟩ := h
  rw [push, if_neg (by omega), if_neg]
  simp only [List.all_eq_true, decide_eq_true_eq, not_forall, not_lt]
  exact ⟨a, ha, hle⟩

theorem push_sublist (c : ℕ) (l : List α) (x : α) : (push key c l x).Sublist (l ++ [x]) := by
  unfold push
  split
  · exact List.Sublist.refl _
  · split
    · exact List.sublist_append_left _ _
    · exact (List.eraseIdx_sublist _ _).append_right _

theorem push_map {γ : Type*} (key' : γ → β) {f : α → γ} (hf : ∀ a, key' (f a) = key a) (c : ℕ)
    (l : List α) (x : α) : push key' c (l.map f) (f x) = (push key c l x).map f := by
  have hmin : earliestMin key' (l.map f) = earliestMin key l := by
    simp [earliestMin, hf, Function.comp_def, List.findIdx_map]
  simp only [push, List.length_map, List.all_map, Function.comp_def, hf, hmin]
  split
  · rw [List.map_append, List.map_singleton]
  · split
    · rfl
    · rw [List.map_append, List.map_singleton, List.eraseIdx_map]

theorem victim_of_evict {l : List α} {x : α} (h : ∃ a ∈ l, key a ≤ key x) :
    victim key l x = l[earliestMin key l]? := by
  obtain ⟨a, ha, hle⟩ := h
  rw [victim, if_neg]
  simp only [List.all_eq_true, decide_eq_true_eq, not_forall, not_lt]
  exact ⟨a, ha, hle⟩

theorem eraseIdx_split (l₁ l₂ : List α) (w : α) :
    (l₁ ++ w :: l₂).eraseIdx l₁.length = l₁ ++ l₂ := by
  rw [List.eraseIdx_append_of_length_le le_rfl, Nat.sub_self, List.eraseIdx_cons_zero]

theorem length_push {c : ℕ} {l : List α} {x : α} (hc : 0 < c) (hl : l.length ≤ c) :
    (push key c l x).length = min c (l.length + 1) := by
  unfold push
  split
  · simp
    omega
  · have hne : l ≠ [] := List.ne_nil_of_length_pos (by omega)
    have hlt := earliestMin_lt_length key hne
    split
    · omega
    · rw [List.length_append, List.length_eraseIdx_of_lt hlt, List.length_singleton]
      omega

/-- One round of the local rule on a list with an element too many: dropping
the worst element first changes nothing. -/
theorem best_append_erase_worst {c : ℕ} {l₁ l₂ : List α} {w x : α}
    (h₁ : ∀ a ∈ l₁, key w < key a) (h₂ : ∀ a ∈ l₂, key w ≤ key a)
    (hc : c ≤ l₁.length + l₂.length) :
    best key c (l₁ ++ w :: l₂ ++ [x]) = best key c (l₁ ++ l₂ ++ [x]) := by
  rcases le_or_gt (key w) (key x) with hle | hlt
  · have hx : ∀ a ∈ l₂ ++ [x], key w ≤ key a := by
      intro a ha
      rcases List.mem_append.mp ha with ha | ha
      · exact h₂ a ha
      · rwa [List.mem_singleton.mp ha]
    have hlen : c ≤ l₁.length + (l₂ ++ [x]).length := by
      rw [List.length_append]
      omega
    have hworst := best_erase_worst key h₁ hx hlen
    simpa only [List.append_assoc, List.cons_append] using hworst
  · have hx₁ : ∀ a ∈ l₁, key x < key a := fun a ha => hlt.trans (h₁ a ha)
    have hx₂ : ∀ a ∈ l₂, key x < key a := fun a ha => hlt.trans_le (h₂ a ha)
    have hall : ∀ a ∈ l₁ ++ l₂, key x < key a := by
      intro a ha
      exact (List.mem_append.mp ha).elim (hx₁ a) (hx₂ a)
    have hall' : ∀ a ∈ l₁ ++ w :: l₂, key x < key a := by
      intro a ha
      rcases List.mem_append.mp ha with ha | ha
      · exact hx₁ a ha
      · rcases List.mem_cons.mp ha with rfl | ha
        · exact hlt
        · exact hx₂ a ha
    have hc' : c ≤ (l₁ ++ w :: l₂).length := by
      rw [List.length_append, List.length_cons]
      omega
    rw [best_append_of_lt key hall' hc', best_append_of_lt key hall (by simpa using hc),
      best_erase_worst key h₁ h₂ hc]

theorem push_best (c : ℕ) (l : List α) (x : α) :
    push key c (best key c l) x = best key c (l ++ [x]) := by
  induction hn : l.length using Nat.strong_induction_on generalizing l with
  | _ n ih =>
      rcases Nat.lt_or_ge l.length c with hlt | hge
      · rw [best_of_length_le key hlt.le, push_of_length_lt key hlt,
          best_of_length_le key (by simp; omega)]
      · by_cases hrefuse : ∀ a ∈ l, key x < key a
        · rw [best_append_of_lt key hrefuse hge]
          rcases Nat.lt_or_ge c l.length with hlt | hle
          · obtain ⟨l₁, w, l₂, rfl, -, h₁, h₂⟩ :=
              earliestMin_split key (l := l) (by rintro rfl; simp at hlt)
            have hc : c ≤ l₁.length + l₂.length := by simp at hlt; omega
            have hsub : ∀ a ∈ l₁ ++ l₂, key x < key a := fun a ha =>
              hrefuse a (by simp at ha ⊢; tauto)
            rw [best_erase_worst key h₁ h₂ hc,
              ih (l₁ ++ l₂).length (by simp at hn ⊢; omega) (l₁ ++ l₂) rfl,
              best_append_of_lt key hsub (by simpa using hc)]
          · rw [best_of_length_le key hle, push_refuse key hge hrefuse]
        · have hne : l ≠ [] := by
            rintro rfl
            exact hrefuse (by simp)
          obtain ⟨l₁, w, l₂, rfl, hidx, h₁, h₂⟩ := earliestMin_split key hne
          rcases Nat.lt_or_ge c (l₁ ++ w :: l₂).length with hlt | hle
          · have hc : c ≤ l₁.length + l₂.length := by simp at hlt; omega
            rw [best_erase_worst key h₁ h₂ hc,
              ih (l₁ ++ l₂).length (by simp at hn ⊢; omega) (l₁ ++ l₂) rfl,
              best_append_erase_worst key h₁ h₂ hc]
          · push Not at hrefuse
            have hwx : key w ≤ key x := by
              obtain ⟨a, ha, hax⟩ := hrefuse
              rcases List.mem_append.mp ha with ha | ha
              · exact (h₁ a ha).le.trans hax
              · rcases List.mem_cons.mp ha with rfl | ha
                · exact hax
                · exact (h₂ a ha).trans hax
            have hx : ∀ a ∈ l₂ ++ [x], key w ≤ key a := by
              intro a ha
              rcases List.mem_append.mp ha with ha | ha
              · exact h₂ a ha
              · rwa [List.mem_singleton.mp ha]
            have hlen : c ≤ l₁.length + (l₂ ++ [x]).length := by
              simp at hge ⊢
              omega
            have hle' : (l₁ ++ (l₂ ++ [x])).length ≤ c := by
              simp at hle ⊢
              omega
            rw [best_of_length_le key hle, push_evict key hge hrefuse, hidx,
              eraseIdx_split, List.append_assoc l₁ (w :: l₂), List.cons_append,
              best_erase_worst key h₁ hx hlen, best_of_length_le key hle',
              List.append_assoc]

theorem foldl_push (c : ℕ) {l : List α} (hl : l.length ≤ c) (xs : List α) :
    xs.foldl (push key c) l = best key c (l ++ xs) := by
  induction xs using List.reverseRecOn with
  | nil => rw [List.foldl_nil, List.append_nil, best_of_length_le key hl]
  | append_singleton xs x ih =>
      rw [List.foldl_append, List.foldl_cons, List.foldl_nil, ih, push_best,
        List.append_assoc]

theorem length_best {c : ℕ} (hc : 0 < c) (l : List α) :
    (best key c l).length = min c l.length := by
  induction l using List.reverseRecOn with
  | nil => simp [best, bestFrom]
  | append_singleton l x ih =>
      rw [← push_best, length_push key hc (by omega), ih, List.length_append,
        List.length_singleton]
      omega

/-- What a list of at most `c` elements gives up for a new one. -/
def dropped (c : ℕ) (l : List α) (x : α) : Option α :=
  if l.length < c then none else victim key l x

/-- No element is lost: the new list together with the element given up is the
old list together with the new element. -/
theorem push_perm (c : ℕ) {l : List α} (x : α) (hc : 0 < c) :
    (push key c l x ++ (dropped key c l x).toList).Perm (l ++ [x]) := by
  rcases Nat.lt_or_ge l.length c with hlt | hge
  · rw [push_of_length_lt key hlt, dropped, if_pos hlt, Option.toList_none, List.append_nil]
  · by_cases hrefuse : ∀ a ∈ l, key x < key a
    · rw [push_refuse key hge hrefuse, dropped, if_neg (by omega), victim,
        if_pos (by simpa using hrefuse), Option.toList_some]
    · have hne : l ≠ [] := List.ne_nil_of_length_pos (by omega)
      obtain ⟨l₁, w, l₂, rfl, hidx, -, -⟩ := earliestMin_split key hne
      push Not at hrefuse
      have hvictim : victim key (l₁ ++ w :: l₂) x = some w := by
        rw [victim_of_evict key hrefuse, hidx]
        simp
      rw [push_evict key hge hrefuse, hidx, eraseIdx_split, dropped, if_neg (by omega),
        hvictim, Option.toList_some]
      have hmove : (l₁ ++ w :: l₂).Perm (l₁ ++ l₂ ++ [w]) := by
        rw [List.append_assoc]
        exact (List.perm_append_singleton w l₂).symm.append_left l₁
      calc (l₁ ++ l₂ ++ [x] ++ [w]).Perm (l₁ ++ l₂ ++ [w] ++ [x]) := by
            simp only [List.append_assoc]
            exact ((List.Perm.swap w x []).append_left l₂).append_left l₁
        _ |>.Perm (l₁ ++ w :: l₂ ++ [x]) := hmove.symm.append_right [x]

/-- The element given up has a key at most that of every element kept. -/
theorem dropped_le {c : ℕ} {l : List α} {x d : α} (hd : dropped key c l x = some d) :
    ∀ a ∈ push key c l x, key d ≤ key a := by
  rcases Nat.lt_or_ge l.length c with hlt | hge
  · simp [dropped, hlt] at hd
  · rw [dropped, if_neg (by omega)] at hd
    by_cases hrefuse : ∀ a ∈ l, key x < key a
    · rw [victim, if_pos (by simpa using hrefuse), Option.some.injEq] at hd
      subst hd
      rw [push_refuse key hge hrefuse]
      exact fun a ha => (hrefuse a ha).le
    · have hne : l ≠ [] := by
        rintro rfl
        exact hrefuse (by simp)
      obtain ⟨l₁, w, l₂, rfl, hidx, h₁, h₂⟩ := earliestMin_split key hne
      push Not at hrefuse
      rw [victim_of_evict key hrefuse, hidx] at hd
      have hw : w = d := by simpa using hd
      subst hw
      rw [push_evict key hge hrefuse, hidx, eraseIdx_split]
      obtain ⟨b, hb, hbx⟩ := hrefuse
      have hmin : ∀ a ∈ l₁ ++ w :: l₂, key w ≤ key a := by
        intro a ha
        rcases List.mem_append.mp ha with ha | ha
        · exact (h₁ a ha).le
        · rcases List.mem_cons.mp ha with rfl | ha
          · exact le_rfl
          · exact h₂ a ha
      intro a ha
      rcases List.mem_append.mp ha with ha | ha
      · exact hmin a (by simp at ha ⊢; tauto)
      · rw [List.mem_singleton.mp ha]
        exact (hmin b hb).trans hbx

end Selection
