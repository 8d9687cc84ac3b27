import Mathlib.Data.List.Nodup
import Mathlib.Data.List.Perm.Basic

/-!
# Lists with distinct keys

Tables hold their parts, and schemas their objects, as lists in which a part is found by its
name. As long as no two items of a list have the same key, a search finds every item.

## Main Definitions

* `nodup_map_append`, `nodup_filter`, `nodup_map_of_imp` - when keys are distinct
* `find?_eq_some_of_mem` - every item is found by its key
* `map_find?_eq_iff`, `find?_eq_find?_iff` - when two lists have the same under each key
* `filters_eq_nil_iff` - when one list becomes another without dropping and adding items
* `eq_of_key_eq`, `eq_of_map_key_eq` - items of one key are the same, and lists of the same keys
* `flatMap_eq_of_mem` - what only one item gives
* `forall_split_append` - what holds at every item, given those in front of it
* `kept_append_added_perm` - one list becomes another by dropping and adding items
-/

namespace SchemaMigration

variable {α β : Type} {key : α → β}

/-- The keys of two lists are distinct just if those of each are, and none is in both. -/
theorem nodup_map_append {front back : List α} : ((front ++ back).map key).Nodup ↔
    (front.map key).Nodup ∧ (back.map key).Nodup ∧ ∀ a ∈ front, ∀ b ∈ back, key a ≠ key b := by
  rw [List.map_append, List.nodup_append]
  simp only [List.forall_mem_map]

/-- Distinct keys stay distinct with a new one behind them. -/
theorem nodup_concat {items : List α} {item : α} (h : (items.map key).Nodup)
    (hnew : key item ∉ items.map key) : ((items ++ [item]).map key).Nodup := by
  refine nodup_map_append.mpr ⟨h, by simp, ?_⟩
  intro a ha b hb hkey
  rw [List.mem_singleton.mp hb] at hkey
  exact hnew (hkey ▸ List.mem_map_of_mem ha)

/-- What holds of all items holds of them with another one of which it does. -/
theorem forall_mem_concat {P : α → Prop} {items : List α} {item : α} (h : ∀ a ∈ items, P a)
    (hitem : P item) : ∀ a ∈ items ++ [item], P a :=
  List.forall_mem_append.mpr ⟨h, List.forall_mem_singleton.mpr hitem⟩

/-- Distinct keys stay distinct with some of the items gone. -/
theorem nodup_filter (keep : α → Bool) {items : List α} (h : (items.map key).Nodup) :
    ((items.filter keep).map key).Nodup :=
  h.sublist (List.filter_sublist.map key)

/-- With distinct keys, items of one key are the same. -/
theorem eq_of_key_eq {items : List α} (h : (items.map key).Nodup) {a b : α} (ha : a ∈ items)
    (hb : b ∈ items) (hkey : key a = key b) : a = b :=
  List.inj_on_of_nodup_map h ha hb hkey

/-- Keys that tell apart what other distinct keys do are distinct too. -/
theorem nodup_map_of_imp {γ : Type} {name : α → γ} {items : List α} (h : (items.map key).Nodup)
    (himp : ∀ a ∈ items, ∀ b ∈ items, name a = name b → key a = key b) :
    (items.map name).Nodup := by
  rw [List.Nodup, List.pairwise_map] at h ⊢
  refine h.imp_of_mem ?_
  intro a b ha hb hne hname
  exact hne (himp a ha b hb hname)

/-- With distinct keys, items of a list that have its keys in its order are that list. -/
theorem eq_of_map_key_eq {items items' : List α} (h : (items'.map key).Nodup)
    (hkeys : items.map key = items'.map key) (hsubset : items ⊆ items') : items = items' := by
  have hlength : items.length = items'.length := by
    rw [← List.length_map key, hkeys, List.length_map]
  refine List.ext_getElem hlength ?_
  intro i hi hi'
  have hkey : key items[i] = key items'[i] := by
    have hget := congrArg (·[i]?) hkeys
    simpa [hi, hi'] using hget
  exact eq_of_key_eq h (hsubset (List.getElem_mem hi)) (List.getElem_mem hi') hkey

/-- With distinct keys, only one item may give something. -/
theorem flatMap_eq_of_mem {γ : Type} {items : List α} (h : (items.map key).Nodup) {item : α}
    (hitem : item ∈ items) {f : α → List γ}
    (hother : ∀ other ∈ items, key other ≠ key item → f other = []) :
    items.flatMap f = f item := by
  induction items with
  | nil => cases hitem
  | cons first rest ih =>
      rw [List.map_cons, List.nodup_cons] at h
      obtain ⟨hfirst, hrest⟩ := h
      rw [List.flatMap_cons]
      rcases List.mem_cons.mp hitem with rfl | hitem
      · have hnone : rest.flatMap f = [] := by
          rw [List.flatMap_eq_nil_iff]
          intro other hmem
          refine hother other (List.mem_cons_of_mem _ hmem) ?_
          intro hkey
          exact hfirst (hkey ▸ List.mem_map_of_mem hmem)
        rw [hnone, List.append_nil]
      · have hnone : f first = [] := by
          refine hother first (by simp) ?_
          intro hkey
          exact hfirst (hkey ▸ List.mem_map_of_mem hitem)
        rw [hnone, List.nil_append]
        exact ih hrest hitem fun other hmem => hother other (List.mem_cons_of_mem _ hmem)

/-- Items of a list with at most one of them are the same. -/
theorem eq_of_length_le_one {items : List α} (h : items.length ≤ 1) {a b : α} (ha : a ∈ items)
    (hb : b ∈ items) : a = b := by
  match items, h with
  | [item], _ => rw [List.mem_singleton.mp ha, List.mem_singleton.mp hb]

/-- A list of distinct items that are all the same has at most one. -/
theorem length_le_one {items : List α} (h : items.Nodup)
    (hsame : ∀ a ∈ items, ∀ b ∈ items, a = b) : items.length ≤ 1 := by
  match items, h with
  | [], _ => simp
  | [_], _ => simp
  | first :: second :: rest, h =>
      have heq : first = second := hsame first (by simp) second (by simp)
      simp [heq] at h

/-- What holds at every item of two lists, one behind the other, holds at every item of each. -/
theorem forall_split_append {items items' : List α} {P : List α → α → Prop} :
    (∀ front item back, items ++ items' = front ++ item :: back → P front item) ↔
      (∀ front item back, items = front ++ item :: back → P front item) ∧
        ∀ front item back, items' = front ++ item :: back → P (items ++ front) item := by
  constructor
  · intro h
    refine ⟨?_, ?_⟩
    · rintro front item back rfl
      exact h front item (back ++ items') (by simp)
    · rintro front item back rfl
      exact h (items ++ front) item back (by simp)
  · rintro ⟨hfirst, hsecond⟩ front item back hsplit
    -- Either the item is one of the second list, or it is the first of that or one in front.
    rcases List.append_eq_append_iff.mp hsplit with ⟨middle, rfl, hback⟩ | ⟨middle, hfront, hrest⟩
    · exact hsecond middle item back hback
    · cases middle with
      | nil =>
          have hwhole := hsecond [] item back hrest.symm
          simp only [List.append_nil] at hfront hwhole
          rwa [← hfront]
      | cons first middle =>
          obtain ⟨rfl, -⟩ := List.cons.inj hrest
          exact hfirst front item middle hfront

section Find

variable [BEq β] [LawfulBEq β]

/-- Items whose keys are not among some are told by one key after the other. -/
theorem filter_notMem_cons (name : α → β) {items : List α} {k : β}
    {keys : List β} :
    (items.filter (name · != k)).filter (name · ∉ keys) = items.filter (name · ∉ k :: keys) := by
  rw [List.filter_filter]
  refine List.filter_congr ?_
  intro item _
  rw [Bool.eq_iff_iff]
  simp [and_comm]

/-- What a search for a key finds is an item with that key. -/
theorem mem_of_find?_eq_some {items : List α} {k : β} {item : α}
    (h : items.find? (key · == k) = some item) : item ∈ items ∧ key item = k := by
  have hkey := List.find?_some h
  exact ⟨List.mem_of_find?_eq_some h, by simpa using hkey⟩

/-- With distinct keys, an item is what a search for its key finds. -/
theorem find?_eq_some_of_mem {items : List α} (h : (items.map key).Nodup) {item : α}
    (hitem : item ∈ items) : items.find? (key · == key item) = some item := by
  have hsome : (items.find? (key · == key item)).isSome := by
    rw [List.find?_isSome]
    exact ⟨item, hitem, by simp⟩
  obtain ⟨found, hfound⟩ := Option.isSome_iff_exists.mp hsome
  obtain ⟨hmem, hkey⟩ := mem_of_find?_eq_some hfound
  rw [hfound, eq_of_key_eq h hmem hitem hkey]

/-- A search for a key fails just if no item has it. -/
theorem find?_eq_none_iff {items : List α} {k : β} :
    items.find? (key · == k) = none ↔ k ∉ items.map key := by
  simp

/-- With distinct keys, searches in two lists find items of the same value just if each list has the
keys of the other one, and with the same values. -/
theorem map_find?_eq_iff {γ : Type} {value : α → γ} {items items' : List α}
    (h : (items.map key).Nodup) (h' : (items'.map key).Nodup) :
    (∀ k, (items.find? (key · == k)).map value = (items'.find? (key · == k)).map value) ↔
      (∀ a ∈ items, ∃ b, items'.find? (key · == key a) = some b ∧ value a = value b) ∧
        ∀ b ∈ items', items.find? (key · == key b) ≠ none := by
  constructor
  · intro hsame
    refine ⟨fun a ha => ?_, fun b hb hnone => ?_⟩
    · have hfound := hsame (key a)
      rw [find?_eq_some_of_mem h ha, Option.map_some, eq_comm, Option.map_eq_some_iff] at hfound
      obtain ⟨b, hb, hvalue⟩ := hfound
      exact ⟨b, hb, hvalue.symm⟩
    · have hfound := hsame (key b)
      rw [find?_eq_some_of_mem h' hb, hnone] at hfound
      cases hfound
  · rintro ⟨hkept, hadded⟩ k
    cases hfound : items.find? (key · == k) with
    | some a =>
        obtain ⟨ha, rfl⟩ := mem_of_find?_eq_some hfound
        obtain ⟨b, hb, hvalue⟩ := hkept a ha
        rw [hb, Option.map_some, Option.map_some, hvalue]
    | none =>
        have hnone : items'.find? (key · == k) = none := by
          rw [find?_eq_none_iff]
          intro hk
          obtain ⟨b, hb, rfl⟩ := List.mem_map.mp hk
          exact hadded b hb hfound
        rw [hnone]

/-- They find the same items just if each list has those of the other one. -/
theorem find?_eq_find?_iff {items items' : List α} (h : (items.map key).Nodup)
    (h' : (items'.map key).Nodup) :
    (∀ k, items.find? (key · == k) = items'.find? (key · == k)) ↔
      (∀ a ∈ items, items'.find? (key · == key a) = some a) ∧
        ∀ b ∈ items', items.find? (key · == key b) = some b := by
  constructor
  · intro hsame
    refine ⟨fun a ha => ?_, fun b hb => ?_⟩
    · rw [← hsame, find?_eq_some_of_mem h ha]
    · rw [hsame, find?_eq_some_of_mem h' hb]
  · rintro ⟨hkept, hadded⟩
    have hvalues : ∀ k, (items.find? (key · == k)).map id = (items'.find? (key · == k)).map id := by
      refine (map_find?_eq_iff h h').mpr ⟨fun a ha => ⟨a, hkept a ha, rfl⟩, ?_⟩
      intro b hb hnone
      rw [hadded b hb] at hnone
      cases hnone
    simpa using hvalues

/-- One list becomes another without dropping and adding an item just if searches in both find the
same. -/
theorem filters_eq_nil_iff {old new : List α} (hold : (old.map key).Nodup)
    (hnew : (new.map key).Nodup) {keep add : α → Bool}
    (hkeep : ∀ a, keep a = true ↔ new.find? (key · == key a) = some a)
    (hadd : ∀ b, add b = true ↔ old.find? (key · == key b) ≠ some b) :
    old.filter (! keep ·) = [] ∧ new.filter add = [] ↔
      ∀ k, old.find? (key · == k) = new.find? (key · == k) := by
  rw [find?_eq_find?_iff hold hnew, List.filter_eq_nil_iff, List.filter_eq_nil_iff]
  refine and_congr (forall₂_congr fun a _ => ?_) (forall₂_congr fun b _ => ?_)
  · rw [← hkeep, Bool.not_eq_true', Bool.not_eq_false]
  · rw [hadd, not_not]

/-- Of two lists with distinct keys, the items that the second has too, and those that the first
does not have, are the second. -/
theorem kept_append_added_perm {old new : List α} (hold : (old.map key).Nodup)
    (hnew : (new.map key).Nodup) {keep add : α → Bool}
    (hkeep : ∀ a, keep a = true ↔ new.find? (key · == key a) = some a)
    (hadd : ∀ b, add b = true ↔ old.find? (key · == key b) ≠ some b) :
    (old.filter keep ++ new.filter add).Perm new := by
  have hnodup : (old.filter keep ++ new.filter add).Nodup := by
    rw [List.nodup_append]
    refine ⟨(hold.of_map _).filter _, (hnew.of_map _).filter _, ?_⟩
    rintro a ha b hb rfl
    refine (hadd a).mp (List.mem_filter.mp hb).2 ?_
    exact find?_eq_some_of_mem hold (List.mem_filter.mp ha).1
  rw [List.perm_ext_iff_of_nodup hnodup (hnew.of_map _)]
  intro a
  rw [List.mem_append, List.mem_filter, List.mem_filter]
  constructor
  · rintro (⟨-, hstays⟩ | ⟨ha, -⟩)
    · exact (mem_of_find?_eq_some ((hkeep a).mp hstays)).1
    · exact ha
  · intro ha
    by_cases hfound : old.find? (key · == key a) = some a
    · exact Or.inl ⟨(mem_of_find?_eq_some hfound).1, (hkeep a).mpr (find?_eq_some_of_mem hnew ha)⟩
    · exact Or.inr ⟨ha, (hadd a).mpr hfound⟩

/-- Without the items that are not kept, told by their keys, those that are kept remain. -/
theorem filter_notMem_map {items : List α} (h : (items.map key).Nodup)
    (keep : α → Bool) :
    items.filter (key · ∉ (items.filter (! keep ·)).map key) = items.filter keep := by
  refine List.filter_congr ?_
  intro a ha
  rw [Bool.eq_iff_iff, decide_eq_true_iff]
  constructor
  · intro hnot
    by_contra hgoes
    exact hnot (List.mem_map_of_mem (List.mem_filter.mpr ⟨ha, by simpa using hgoes⟩))
  · intro hstays hin
    obtain ⟨b, hb, hkey⟩ := List.mem_map.mp hin
    obtain ⟨hb, hgoes⟩ := List.mem_filter.mp hb
    rw [eq_of_key_eq h hb ha hkey, hstays] at hgoes
    cases hgoes

end Find

end SchemaMigration
