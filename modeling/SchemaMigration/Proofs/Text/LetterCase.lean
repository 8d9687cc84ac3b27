import SchemaMigration.Proofs.Text.StringLiteral

/-!
# Upper case

What is in upper case stays so: no letter is mapped to one that is mapped further. Blanks are no
letters, so a text has its words in upper case too, and neither layout nor letter case minds the
other.

## Main Definitions

* `upper_upper` - a text in upper case is its own upper case
* `words_upper`, `squash_upper` - the words and the layout of a text in upper case
-/

namespace SchemaMigration.Text

/-! ## Letters that have no upper case -/

/-- A character of no run and no sequence stays. -/
theorem upperCharacter_eq_self {c : Char} (hrun : ∀ run ∈ upperRuns, run.has c.toNat = false)
    (hsequence : ∀ entry ∈ upperSequences, entry.1 ≠ c.toNat) : upperCharacter c = [c] := by
  rw [upperCharacter]
  split
  · rename_i hsmall
    -- the run of the small letters of ASCII comes first
    have htable : (List.range 0x80).all fun code =>
        (upperRuns.head?.any (·.has code)) || (Char.ofNat code).toUpper == Char.ofNat code := by
      decide +kernel
    have hcode := List.all_eq_true.mp htable c.toNat (List.mem_range.mpr hsmall)
    have hnone : upperRuns.head?.any (·.has c.toNat) = false :=
      hrun _ (List.mem_of_mem_head? rfl)
    rw [hnone, Bool.false_or, Char.ofNat_toNat, beq_iff_eq] at hcode
    rw [hcode]
  · have hlookup : upperSequences.lookup c.toNat = none :=
      List.lookup_eq_none_iff.mpr fun entry hentry => by
        simpa using (hsequence entry hentry).symm
    have hfind : upperRuns.find? (·.has c.toNat) = none :=
      List.find?_eq_none.mpr fun run hmem => by simp [hrun run hmem]
    rw [hlookup, hfind]

/-- Whether a run has none of the code points between two others; where `isSparse` is set, of those
at an even distance from the first. -/
def CaseRun.missesBetween (run : CaseRun) (first last : Nat) (isSparse : Bool) : Bool :=
  Nat.blt last run.first || Nat.blt run.last first ||
    (isSparse && run.stride == 2 && (first + run.first) % 2 == 1)

theorem CaseRun.has_eq_false {run : CaseRun} {first last code : Nat} {isSparse : Bool}
    (h : run.missesBetween first last isSparse = true) (hfirst : first ≤ code) (hlast : code ≤ last)
    (hsparse : isSparse = true → code % 2 = first % 2) : run.has code = false := by
  rw [Bool.eq_false_iff]
  intro hhas
  simp only [CaseRun.has, Bool.and_eq_true, decide_eq_true_eq, beq_iff_eq] at hhas
  simp only [missesBetween, Bool.or_eq_true, Bool.and_eq_true, Nat.blt_eq, beq_iff_eq] at h
  rcases h with (hbelow | habove) | ⟨⟨heven, hstride⟩, hodd⟩
  · omega
  · omega
  · have hparity := hsparse heven
    rw [hstride] at hhas
    omega

/-- Whether no letter is mapped further than a run maps it. -/
def CaseRun.imagesStay (run : CaseRun) : Bool :=
  let first := (run.first + run.shift).toNat
  let last := (run.last + run.shift).toNat
  0 ≤ run.first + run.shift &&
    upperRuns.all (·.missesBetween first last (run.stride == 2 || first == last)) &&
    upperSequences.all fun entry => Nat.blt last entry.1 || Nat.blt entry.1 first

set_option maxRecDepth 10000 in
theorem imagesStay_upperRuns : upperRuns.all (·.imagesStay) = true := by decide +kernel

theorem CaseRun.upperCharacter_image {run : CaseRun} (hrun : run ∈ upperRuns) {n : Nat}
    (hhas : run.has n = true) : upperCharacter (run.image n) = [run.image n] := by
  have hstay := List.all_eq_true.mp imagesStay_upperRuns run hrun
  simp only [imagesStay, Bool.and_eq_true, List.all_eq_true, decide_eq_true_eq] at hstay
  obtain ⟨⟨hpositive, hruns⟩, hsequences⟩ := hstay
  simp only [CaseRun.has, Bool.and_eq_true, decide_eq_true_eq, beq_iff_eq] at hhas
  obtain ⟨⟨hfirst, hlast⟩, hstride⟩ := hhas
  by_cases hvalid : (n + run.shift).toNat.isValidChar
  · have hvalue : (run.image n).toNat = (n + run.shift).toNat := by
      rw [image, Char.ofNat, dif_pos hvalid]
      rfl
    refine upperCharacter_eq_self (fun other hother => ?_) fun entry hentry => ?_
    · refine CaseRun.has_eq_false (hruns other hother) (by omega) (by omega) fun hsparse => ?_
      simp only [Bool.or_eq_true, beq_iff_eq] at hsparse
      rcases hsparse with htwo | hsame
      · rw [htwo] at hstride
        omega
      · omega
    · have hmiss := hsequences entry hentry
      simp only [Bool.or_eq_true, Nat.blt_eq] at hmiss
      omega
  · -- a code point that is no character becomes the null character
    have hnull : run.image n = '\x00' := by
      rw [image, Char.ofNat, dif_neg hvalid]
      rfl
    rw [hnull]
    decide

/-! ## Texts in upper case -/

/-- What is in upper case stays. -/
theorem upperCharacter_of_mem {c d : Char} (h : d ∈ upperCharacter c) : upperCharacter d = [d] := by
  rw [upperCharacter] at h
  split at h
  · rename_i hsmall
    have htable : (List.range 0x80).all fun code =>
        upperCharacter (Char.ofNat code).toUpper == [(Char.ofNat code).toUpper] := by
      decide +kernel
    have hcode := List.all_eq_true.mp htable c.toNat (List.mem_range.mpr hsmall)
    rw [Char.ofNat_toNat, beq_iff_eq] at hcode
    rwa [List.mem_singleton.mp h]
  · split at h
    · rename_i codes hcodes
      have htable : upperSequences.all fun entry => entry.2.all fun code =>
          upperCharacter (Char.ofNat code) == [Char.ofNat code] := by decide +kernel
      obtain ⟨front, back, heq, -⟩ := List.lookup_eq_some_iff.mp hcodes
      have hentry := List.all_eq_true.mp htable (c.toNat, codes) (by simp [heq])
      obtain ⟨code, hcode, rfl⟩ := List.mem_map.mp h
      simpa using List.all_eq_true.mp hentry code hcode
    · split at h
      · rename_i run hrun
        rw [List.mem_singleton.mp h]
        exact CaseRun.upperCharacter_image (List.mem_of_find?_eq_some hrun)
          (by simpa using List.find?_some hrun)
      · rename_i hsequence _ hrun
        rw [List.mem_singleton.mp h]
        refine upperCharacter_eq_self (fun run hmem => ?_) fun entry hentry heq => ?_
        · simpa using List.find?_eq_none.mp hrun run hmem
        · simpa [heq] using List.lookup_eq_none_iff.mp hsequence entry hentry

/-- A text in upper case is its own upper case. -/
@[simp] theorem upper_upper (text : Text) : upper (upper text) = upper text := by
  have hself {front : Text} (h : ∀ d ∈ front, upperCharacter d = [d]) : upper front = front := by
    rw [upper, List.flatMap_congr h, List.flatMap_singleton']
  refine hself fun d hd => ?_
  obtain ⟨c, -, hc⟩ := List.mem_flatMap.mp hd
  exact upperCharacter_of_mem hc

theorem upper_append (front rest : Text) : upper (front ++ rest) = upper front ++ upper rest :=
  List.flatMap_append

theorem upperCharacter_of_isBlank {c : Char} (hc : isBlank c = true) : upperCharacter c = [c] := by
  simpa using of_isBlank (fun c => upperCharacter c == [c]) (by decide +kernel) hc

/-- Characters that do not separate belong to the first piece. -/
theorem splitWhere_append_of_neg {separates : Char → Bool} {front : Text}
    (hfront : ∀ c ∈ front, separates c = false) (rest : Text) :
    splitWhere separates (front ++ rest) = (splitWhere separates rest).modifyHead (front ++ ·) := by
  induction front with
  | nil => exact (congrFun List.modifyHead_id _).symm
  | cons c front ih =>
      rw [List.cons_append, splitWhere_cons_of_neg (hfront c (by simp)),
        ih fun d hd => hfront d (List.mem_cons_of_mem _ hd), List.modifyHead_modifyHead]
      rfl

/-- A text has its words in upper case too. -/
theorem words_upper (text : Text) : words (upper text) = (words text).map upper := by
  have hpieces : splitWhere isBlank (upper text) = (splitWhere isBlank text).map upper := by
    induction text with
    | nil => rfl
    | cons c text ih =>
        have hupper : upper (c :: text) = upperCharacter c ++ upper text := List.flatMap_cons
        cases hc : isBlank c with
        | true =>
            rw [hupper, upperCharacter_of_isBlank hc, List.singleton_append,
              splitWhere_cons_of_pos hc, splitWhere_cons_of_pos hc, ih]
            rfl
        | false =>
            have hblank : ∀ d ∈ upperCharacter c, isBlank d = false := by
              have hsingle : ∀ d ∈ [c], isBlank d = false := by simpa using hc
              simpa [upper] using isBlank_of_mem_upper hsingle
            rw [hupper, splitWhere_append_of_neg hblank, splitWhere_cons_of_neg hc, ih]
            exact (map_modifyHead fun piece _ => List.flatMap_cons).symm
  have hempty : (fun piece : Text => ! piece.isEmpty) ∘ upper = fun piece => ! piece.isEmpty := by
    funext piece
    by_cases hne : piece = []
    · rw [hne]
      rfl
    · simp [List.isEmpty_eq_false_iff.mpr hne, List.isEmpty_eq_false_iff.mpr (upper_ne_nil hne)]
  rw [words, hpieces, List.filter_map, hempty, words]

/-- Layout and letter case do not mind each other. -/
theorem squash_upper (text : Text) : squash (upper text) = upper (squash text) := by
  have hjoin (pieces : List Text) :
      join [' '] (pieces.map upper) = upper (join [' '] pieces) := by
    induction pieces with
    | nil => rfl
    | cons piece pieces ih =>
        cases pieces with
        | nil => rfl
        | cons next pieces =>
            have hspace : upper [' '] = [' '] := rfl
            have hmore : join [' '] (piece :: next :: pieces) =
                piece ++ [' '] ++ join [' '] (next :: pieces) := rfl
            rw [hmore, upper_append, upper_append, hspace, ← ih]
            rfl
  rw [squash, words_upper, hjoin, squash]

end SchemaMigration.Text
