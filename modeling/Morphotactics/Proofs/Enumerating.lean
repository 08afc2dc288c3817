import Morphotactics.Proofs.Table
import Mathlib.Data.List.Forall2

/-! Lists of all values that have a label, in the order of the labels. -/
namespace Morphotactics

variable {α β δ ε : Type} {R : δ → δ → Prop} {S : ε → ε → Prop} {D E : δ → α → Prop}
  {values more : List α}

/-- The list has every value once for each of its labels, and is in the order of the labels. -/
def Enumerates (R : δ → δ → Prop) (D : δ → α → Prop) (values : List α) : Prop :=
  ∃ made : List (α × δ), made.map Prod.fst = values ∧ made.Pairwise (fun a b => R a.2 b.2) ∧
    ∀ x d, (x, d) ∈ made ↔ D d x

theorem Enumerates.mem_iff (h : Enumerates R D values) {x : α} : x ∈ values ↔ ∃ d, D d x := by
  obtain ⟨made, rfl, -, hmem⟩ := h
  simp [hmem]

theorem enumerates_nil : Enumerates R (fun _ (_ : α) => False) [] :=
  ⟨[], rfl, .nil, by simp⟩

theorem enumerates_singleton (d : δ) (x : α) : Enumerates R (fun e y => e = d ∧ y = x) [x] :=
  ⟨[(x, d)], rfl, List.pairwise_singleton _ _, by simp [and_comm]⟩

theorem enumerates_getElem? (values : List α) :
    Enumerates (· < ·) (fun (i : Nat) x => values[i]? = some x) values := by
  refine ⟨values.zipIdx, List.zipIdx_map_fst 0 values, ?_, fun x i =>
    List.mk_mem_zipIdx_iff_getElem?⟩
  rw [← List.pairwise_map (R := (· < ·)), List.zipIdx_map_snd]
  exact List.pairwise_lt_range'

theorem Enumerates.map {F : ε → β → Prop} (h : Enumerates R D values) (f : α → β) {c : δ → ε}
    (hc : ∀ d e, R d e → S (c d) (c e)) (hF : ∀ e y, F e y ↔ ∃ d x, D d x ∧ c d = e ∧ f x = y) :
    Enumerates S F (values.map f) := by
  obtain ⟨made, rfl, hordered, hmem⟩ := h
  refine ⟨made.map (Prod.map f c), by simp, ?_, fun y e => ?_⟩
  · exact List.pairwise_map.mpr (hordered.imp (hc _ _))
  · simp only [hF, ← hmem, List.mem_map, Prod.exists, Prod.map_apply, Prod.mk.injEq]
    constructor
    · rintro ⟨x, d, hxd, hy, he⟩
      exact ⟨d, x, hxd, he, hy⟩
    · rintro ⟨d, x, hxd, he, hy⟩
      exact ⟨x, d, hxd, hy, he⟩

/-- Labels can be changed to others that are in the same order. -/
theorem Enumerates.relabel {F : ε → α → Prop} (h : Enumerates R D values) {c : δ → ε}
    (hc : ∀ d e, R d e → S (c d) (c e)) (hF : ∀ e x, F e x ↔ ∃ d, D d x ∧ c d = e) :
    Enumerates S F values := by
  have hmap : Enumerates S F (values.map id) := h.map id hc (by simp [hF])
  rwa [List.map_id] at hmap

theorem Enumerates.congr (h : Enumerates R D values) (hE : ∀ d x, E d x ↔ D d x) :
    Enumerates R E values :=
  h.relabel (c := id) (fun _ _ => id) (by simp [hE])

theorem Enumerates.append (h : Enumerates R D values) (hmore : Enumerates R E more)
    (hfirst : ∀ d e x y, D d x → E e y → R d e) :
    Enumerates R (fun d x => D d x ∨ E d x) (values ++ more) := by
  obtain ⟨before, rfl, hbefore, hmem⟩ := h
  obtain ⟨after, rfl, hafter, hmem'⟩ := hmore
  refine ⟨before ++ after, List.map_append, ?_, by simp [hmem, hmem']⟩
  exact List.pairwise_append.mpr ⟨hbefore, hafter, fun a ha b hb =>
    hfirst _ _ _ _ ((hmem _ _).mp ha) ((hmem' _ _).mp hb)⟩

/-- What belongs to each of the values is labelled with the value's label and its own. -/
theorem Enumerates.flatten {F : α → ε → β → Prop} {parts : List (List β)}
    (h : Enumerates R D values)
    (hparts : List.Forall₂ (fun x part => Enumerates S (F x) part) values parts) :
    Enumerates (Prod.Lex R S) (fun d y => ∃ x, D d.1 x ∧ F x d.2 y) parts.flatten := by
  obtain ⟨made, rfl, hordered, hmem⟩ := h
  rw [List.forall₂_map_left_iff] at hparts
  suffices hmade : Enumerates (Prod.Lex R S) (fun d y => ∃ x, (x, d.1) ∈ made ∧ F x d.2 y)
      parts.flatten by
    simpa only [hmem] using hmade
  clear hmem
  induction hparts with
  | nil => exact enumerates_nil.congr (by simp)
  | @cons a part made parts hpart _ ih =>
    obtain ⟨hfirst, hrest⟩ := List.pairwise_cons.mp hordered
    have hown : Enumerates (Prod.Lex R S) (fun d y => d.1 = a.2 ∧ F a.1 d.2 y) part :=
      hpart.relabel (c := (a.2, ·)) (fun _ _ => .right _)
        (by simp [Prod.ext_iff, eq_comm, and_comm])
    refine (hown.append (ih hrest) ?_).congr fun d y => ?_
    · rintro ⟨d, s⟩ ⟨e, t⟩ y z ⟨rfl, -⟩ ⟨x, hx, -⟩
      exact .left _ _ (hfirst _ hx)
    · simp only [List.mem_cons, Prod.ext_iff]
      constructor
      · rintro ⟨x, ⟨rfl, hd⟩ | hx, hF⟩
        · exact .inl ⟨hd, hF⟩
        · exact .inr ⟨x, hx, hF⟩
      · rintro (⟨hd, hF⟩ | ⟨x, hx, hF⟩)
        · exact ⟨a.1, .inl ⟨rfl, hd⟩, hF⟩
        · exact ⟨x, .inr hx, hF⟩

/-- If values are labelled with the places of what they belong to, which values there are does not
depend on the places. -/
theorem Enumerates.mem_iff_exists_mem {S : Nat × ε → Nat × ε → Prop} {F : α → ε → β → Prop}
    {made : List β} (h : Enumerates S (fun d y => ∃ x, values[d.1]? = some x ∧ F x d.2 y) made)
    {y : β} : y ∈ made ↔ ∃ x ∈ values, ∃ e, F x e y := by
  rw [h.mem_iff]
  simp only [List.mem_iff_getElem?, Prod.exists]
  constructor
  · rintro ⟨i, e, x, hx, hF⟩
    exact ⟨x, ⟨i, hx⟩, e, hF⟩
  · rintro ⟨x, ⟨i, hx⟩, e, hF⟩
    exact ⟨i, e, x, hx, hF⟩

section First

/-- The value has the label, and any other label of it comes later. -/
def IsFirst (R : δ → δ → Prop) (D : δ → α → Prop) (d : δ) (x : α) : Prop :=
  D d x ∧ ∀ e, D e x → e = d ∨ R d e

theorem IsFirst.unique [Std.Asymm R] {d e : δ} {x : α} (hd : IsFirst R D d x)
    (he : IsFirst R D e x) : d = e := by
  obtain heq | hless := hd.2 e he.1
  · exact heq.symm
  · obtain heq | hgreater := he.2 d hd.1
    · exact heq
    · exact absurd hgreater (Std.Asymm.asymm _ _ hless)

/-- If labels are in order, a text is kept with the first one where duplicates are dropped. -/
theorem exists_firsts {made : List (Text × δ)} (h : made.Pairwise fun a b => R a.2 b.2) :
    ∃ firsts : List (Text × δ), firsts.Sublist made ∧
      firsts.map Prod.fst = (made.map Prod.fst).eraseDups ∧
        ∀ a ∈ firsts, ∀ e, (a.1, e) ∈ made → e = a.2 ∨ R a.2 e := by
  induction made using List.reverseRecOn with
  | nil => exact ⟨[], .slnil, rfl, List.forall_mem_nil _⟩
  | append_singleton made last ih =>
    obtain ⟨hmade, -, hlast⟩ := List.pairwise_append.mp h
    obtain ⟨firsts, hsub, hkeys, hfirst⟩ := ih hmade
    have hkeep : ∀ a ∈ firsts, ∀ e, (a.1, e) ∈ made ++ [last] → e = a.2 ∨ R a.2 e := by
      intro a ha e he
      obtain he | he := List.mem_append.mp he
      · exact hfirst a ha e he
      · obtain rfl := List.mem_singleton.mp he
        exact .inr (hlast a (hsub.mem ha) _ List.mem_cons_self)
    rw [List.map_append, List.map_singleton, Table.eraseDups_append_singleton]
    split_ifs with hseen
    · exact ⟨firsts, hsub.trans (List.sublist_append_left _ _), hkeys, hkeep⟩
    · refine ⟨firsts ++ [last], hsub.append (List.Sublist.refl _), by simp [hkeys], ?_⟩
      intro a ha e he
      obtain ha | ha := List.mem_append.mp ha
      · exact hkeep a ha e he
      · obtain rfl := List.mem_singleton.mp ha
        obtain he | he := List.mem_append.mp he
        · exact absurd (List.mem_eraseDups.mpr (List.mem_map_of_mem he)) hseen
        · exact .inl (congrArg Prod.snd (List.mem_singleton.mp he))

/-- Without its duplicates the list is in the order of the first labels. -/
theorem Enumerates.eraseDups [Std.Asymm R] {D : δ → Text → Prop} {values : List Text}
    (h : Enumerates R D values) :
    (∀ x ∈ values.eraseDups, ∃! d, IsFirst R D d x) ∧ values.eraseDups.Pairwise fun x y =>
      ∀ d e, IsFirst R D d x → IsFirst R D e y → R d e := by
  obtain ⟨made, rfl, hordered, hmem⟩ := h
  obtain ⟨firsts, hsub, hkeys, hfirst⟩ := exists_firsts hordered
  have hisFirst : ∀ a ∈ firsts, IsFirst R D a.2 a.1 := fun a ha =>
    ⟨(hmem _ _).mp (hsub.mem ha), fun e he => hfirst a ha e ((hmem _ _).mpr he)⟩
  rw [← hkeys]
  constructor
  · intro x hx
    obtain ⟨a, ha, rfl⟩ := List.mem_map.mp hx
    exact ⟨a.2, hisFirst a ha, fun e he => he.unique (hisFirst a ha)⟩
  · refine List.pairwise_map.mpr ((hordered.sublist hsub).imp_of_mem ?_)
    intro a b ha hb hab d e hd he
    rwa [hd.unique (hisFirst a ha), he.unique (hisFirst b hb)]

end First

end Morphotactics
