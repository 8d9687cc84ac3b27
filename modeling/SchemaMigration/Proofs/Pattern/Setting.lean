import SchemaMigration.Options.Rule
import SchemaMigration.Proofs.Pattern.Keyword
import SchemaMigration.Proofs.Text.Search

/-!
# Patterns of settings

A rule for table options takes out a keyword with a value behind it, and one space in front if there
is one. The course of its pattern is told at each place by a recogniser of texts, and so is what
replacing all matches makes of a text.

## Main Definitions

* `setting?` - the text behind a keyword and its value
* `spacedSetting?` - the same with one space in front, or none where a word may begin
* `settingPlan` - the plan of the pattern
* `ends?_settingPlan` - where its course ends at a place
* `withoutSetting` - a text without the settings that the recogniser finds
* `Pattern.IsForSetting.substitute_eq` - replacing the matches by nothing gives that text

## Design Notes

A place of a text is told by the text in front of it. So the places that a course goes through are
those behind longer and longer beginnings, and induction is on the text that is left.
-/

namespace SchemaMigration

open Text

/-! ## Recognisers -/

/-- The rest behind one or more characters of a class, all of which are consumed. -/
def class? (inside : Char → Bool) : Text → Option Text
  | [] => none
  | c :: text => if inside c then some (text.dropWhile inside) else none

/-- The text behind a keyword and a value of characters of a class. -/
def setting? (keyword : Text) (inside : Char → Bool) (text : Text) : Option Text :=
  (keyword? keyword text).bind (class? inside)

/-- The text behind a setting with one space in front, or none if a word may begin. -/
def spacedSetting? (keyword : Text) (inside : Char → Bool) (previous : Option Char) :
    Text → Option Text
  | ' ' :: text => setting? keyword inside text
  | text => if startsWord previous then setting? keyword inside text else none

/-- What stands in place of a setting, which is nothing, and the text behind it. -/
def removedSetting? (keyword : Text) (inside : Char → Bool) (previous : Option Char)
    (text : Text) : Option (Text × Text) :=
  (spacedSetting? keyword inside previous text).map fun rest => ([], rest)

/-- A text without settings. -/
def withoutSetting (keyword : Text) (inside : Char → Bool) (text : Text) : Text :=
  replaceMatches (removedSetting? keyword inside) text

/-! ## Plans -/

/-- The plan of a keyword and one or more characters that pass a test. -/
def wordPlan (value : CharacterTest) : (keyword : Text) → Plan
  | [] => .run .greedy 1 none value
  | letter :: keyword => .sequence (.character (letterTest letter)) (wordPlan value keyword)

/-- The same with one space in front or none, where a word begins. -/
def settingPlan (value : CharacterTest) (keyword : Text) : Plan :=
  .sequence (.run .greedy 0 (some 1) (.single .exact false 0x20))
    (.sequence (.anchor (.boundary false false)) (wordPlan value keyword))

/-- The place where a course ends that succeeds. -/
def ends? (attempt : Attempt) : Option Nat := attempt.toOption.map (·.reached)

/-- Nothing more is to be run. -/
structure Ahead.IsFinal (ahead : Ahead) : Prop where
  opening : ahead.opening = none
  course : ∀ place track, ahead.course place track = .ok (track.reach place)

/-- A keyword of which the letters are tested by those that spell them, and that begins a word. -/
structure IsSettingKeyword (keyword : Text) : Prop where
  ne_nil : keyword ≠ []
  spellsAlike : ∀ letter ∈ keyword, SpellsAlike letter
  beginsWord : ∀ letter ∈ keyword.head?, ∀ c ∈ spellings letter, isWordCharacter c = true

section Course

variable {front text : Text} {ahead : Ahead} {inRounds : Bool} {value : CharacterTest}
  {keyword : Text}

theorem getElem?_behind (front text : Text) :
    (front ++ text).toArray[front.length]? = text.head? := by
  rw [List.getElem?_toArray, List.getElem?_append_right le_rfl, Nat.sub_self,
    List.head?_eq_getElem?]

theorem passes_behind (test : CharacterTest) (front text : Text) :
    test.passes (front ++ text).toArray front.length = text.head?.any test.accepts := by
  rw [CharacterTest.passes, getElem?_behind]

/-- As many characters are counted as there are in a row. -/
theorem passing_behind (test : CharacterTest) (front text : Text) :
    passing (front ++ text).toArray test front.length text.length =
      (text.takeWhile test.accepts).length := by
  induction text generalizing front with
  | nil => rfl
  | cons c text ih =>
      have hnext := ih (front ++ [c])
      rw [List.append_assoc, List.singleton_append, List.length_append, List.length_singleton]
        at hnext
      rw [List.length_cons, passing, passes_behind, List.head?_cons, Option.any_some, hnext]
      cases hc : test.accepts c <;> simp [hc]

/-- The course behind characters that were counted succeeds at the first trial. -/
theorem shorten_of_isFinal (hahead : ahead.IsFinal) (subject : Subject)
    (place least extra : Nat) (track : Track) :
    shorten subject inRounds ahead place least extra track =
      .ok (track.reach (place + least + extra)) := by
  cases extra <;>
    simp [shorten, hahead.opening, hahead.course, Except.mapError, Track.reach]

/-- The course of a keyword and its value. -/
theorem ends?_wordPlan (hahead : ahead.IsFinal) (hkeyword : ∀ letter ∈ keyword, SpellsAlike letter)
    (front text : Text) (track : Track) :
    ends? ((wordPlan value keyword).course (front ++ text).toArray inRounds ahead front.length
        track) =
      (setting? keyword value.accepts text).map fun rest =>
        (front ++ text).length - rest.length := by
  induction keyword generalizing front text track with
  | nil =>
      have hcount := passing_behind value front text
      have hleft : (front ++ text).toArray.size - front.length = text.length := by simp
      simp only [wordPlan, Plan.course, runCourse, hleft, Option.getD_none, Nat.min_self, hcount,
        setting?, keyword?, Option.bind_some]
      cases text with
      | nil => rfl
      | cons c text =>
          rw [if_neg (by simp)]
          cases hc : value.accepts c with
          | false => simp [hc, class?, ends?, Except.toOption]
          | true =>
              have hsum := congrArg List.length
                (List.takeWhile_append_dropWhile (p := value.accepts) (l := text))
              rw [List.length_append] at hsum
              have htake : (c :: text).takeWhile value.accepts =
                  c :: text.takeWhile value.accepts := List.takeWhile_cons_of_pos hc
              rw [htake, List.length_cons, if_neg (by omega), shorten_of_isFinal hahead, class?,
                if_pos hc, Option.map_some, ends?, List.length_append, List.length_cons]
              refine congrArg some ?_
              simp only [Track.reach]
              omega
  | cons letter keyword ih =>
      obtain ⟨hletter, hrest⟩ := List.forall_mem_cons.mp hkeyword
      rw [wordPlan, Plan.course, Plan.course, passes_behind]
      cases text with
      | nil => rfl
      | cons c text =>
          rw [List.head?_cons, Option.any_some, accepts_letterTest hletter, setting?, keyword?]
          have hnext := ih hrest (front ++ [c]) text track
          rw [List.append_assoc, List.singleton_append, List.length_append, List.length_singleton]
            at hnext
          split
          · exact hnext
          · rfl

/-- A word begins where a word character stands behind what is none. -/
theorem passes_boundary {c : Char} (hc : isWordCharacter c = true) (front text : Text) :
    (PlaceTest.boundary false false).passes (front ++ c :: text).toArray front.length =
      startsWord front.getLast? := by
  rcases List.eq_nil_or_concat front with rfl | ⟨before, d, rfl⟩ <;>
    simp [PlaceTest.passes, PlaceTest.wordsAround, Category.has, hc, startsWord]

/-- The course of a setting without a space in front. -/
theorem ends?_boundary (hahead : ahead.IsFinal)
    (hkeyword : IsSettingKeyword keyword) (front text : Text) (track : Track) :
    ends? ((Plan.sequence (.anchor (.boundary false false)) (wordPlan value keyword)).course
        (front ++ text).toArray inRounds ahead front.length track) =
      (if startsWord front.getLast? then setting? keyword value.accepts text else none).map
        fun rest => (front ++ text).length - rest.length := by
  have hword : ends? ((wordPlan value keyword).course (front ++ text).toArray inRounds ahead
      front.length track) = (setting? keyword value.accepts text).map fun rest =>
        (front ++ text).length - rest.length :=
    ends?_wordPlan hahead hkeyword.spellsAlike front text track
  rw [Plan.course, Plan.course]
  cases hsetting : setting? keyword value.accepts text with
  | none =>
      rw [hsetting] at hword
      split
      · simpa using hword
      · simp [ends?, Except.toOption]
  | some rest =>
      rw [hsetting] at hword
      obtain ⟨letter, keyword, rfl⟩ := List.exists_cons_of_ne_nil hkeyword.ne_nil
      cases text with
      | nil => cases hsetting
      | cons c text =>
          have hspells : spells letter c = true := by
            by_contra hnot
            simp [setting?, keyword?, hnot] at hsetting
          rw [passes_boundary (hkeyword.beginsWord letter rfl c (mem_spellings.mpr hspells))]
          split
          · exact hword
          · rfl

theorem ends?_shorten_zero {subject : Subject} {place : Nat} {here : Option Nat}
    (hopening : ahead.opening = none)
    (hhere : ∀ track, ends? (ahead.course place track) = here) (track : Track) :
    ends? (shorten subject inRounds ahead place 0 0 track) = here := by
  have hcourse := hhere (track.reach place)
  unfold shorten
  simp only [hopening, Option.bind_none, Option.any_none, Nat.add_zero]
  cases hfound : ahead.course place (track.reach place) with
  | ok found => simpa [hfound, Except.mapError] using hcourse
  | error failed => simpa [hfound, Except.mapError, ends?, Except.toOption] using hcourse

/-- Of a space that may be given up, what follows it is tried first. -/
theorem ends?_shorten_one {subject : Subject} {place : Nat} {behind here : Option Nat}
    (hopening : ahead.opening = none)
    (hbehind : ∀ track, ends? (ahead.course (place + 1) track) = behind)
    (hhere : ∀ track, ends? (ahead.course place track) = here) (track : Track) :
    ends? (shorten subject inRounds ahead place 0 1 track) = behind.or here := by
  have hcourse := hbehind (track.reach (place + 1))
  unfold shorten
  simp only [hopening, Option.bind_none, Option.any_none, Nat.add_zero]
  cases hfound : ahead.course (place + 1) (track.reach (place + 1)) with
  | ok found =>
      rw [hfound] at hcourse
      rw [← hcourse]
      simp [Except.mapError, ends?, Except.toOption]
  | error failed =>
      rw [hfound] at hcourse
      rw [← hcourse]
      simpa [hfound, Except.mapError, ends?, Except.toOption] using
        ends?_shorten_zero hopening hhere _

/-- A keyword that begins a word does not begin with a space. -/
theorem IsSettingKeyword.setting?_space (hkeyword : IsSettingKeyword keyword)
    (inside : Char → Bool) (text : Text) : setting? keyword inside (' ' :: text) = none := by
  obtain ⟨letter, keyword, rfl⟩ := List.exists_cons_of_ne_nil hkeyword.ne_nil
  have hletter : spells letter ' ' = false := by
    rw [Bool.eq_false_iff]
    exact fun hspells => absurd
      (hkeyword.beginsWord letter rfl ' ' (mem_spellings.mpr hspells)) (by decide +kernel)
  simp [setting?, keyword?, hletter]

/-- The course of a setting. -/
theorem ends?_settingPlan (hahead : ahead.IsFinal)
    (hkeyword : IsSettingKeyword keyword) (front text : Text) (track : Track) :
    ends? ((settingPlan value keyword).course (front ++ text).toArray inRounds ahead front.length
        track) =
      (spacedSetting? keyword value.accepts front.getLast? text).map fun rest =>
        (front ++ text).length - rest.length := by
  have hboundary (front text : Text) (track : Track) :
      ends? ((Plan.sequence (.anchor (.boundary false false)) (wordPlan value keyword)).course
        (front ++ text).toArray inRounds ahead front.length track) =
      (if startsWord front.getLast? then setting? keyword value.accepts text else none).map
        fun rest => (front ++ text).length - rest.length :=
    ends?_boundary hahead hkeyword front text track
  have htext : (front ++ text).toArray.size - front.length = text.length := by simp
  -- the rest of the pattern is what lies ahead of the space
  let rest : Ahead := ⟨none, Plan.course (front ++ text).toArray inRounds
    (.sequence (.anchor (.boundary false false)) (wordPlan value keyword)) ahead⟩
  have hplan : (settingPlan value keyword).course (front ++ text).toArray inRounds ahead
      front.length track = runCourse (front ++ text).toArray inRounds .greedy 0 (some 1)
        (.single .exact false 0x20) rest front.length track := rfl
  have hspace : CharacterTest.accepts ' ' (.single .exact false 0x20) = true := rfl
  simp only [hplan, runCourse, htext, Option.getD_some, Nat.not_lt_zero, if_false, Nat.sub_zero]
  cases text with
  | nil => exact ends?_shorten_zero rfl (hboundary front []) _
  | cons c text =>
      have hmost : min 1 (c :: text).length = 1 := by simp
      rw [hmost, passing, passes_behind, List.head?_cons, Option.any_some]
      by_cases hc : c = ' '
      · subst hc
        have hbehind (track : Track) : ends? (rest.course (front.length + 1) track) =
            (setting? keyword value.accepts text).map fun rest =>
              (front ++ ' ' :: text).length - rest.length := by
          have hnext := hboundary (front ++ [' ']) text track
          rw [List.getLast?_concat, List.append_assoc, List.singleton_append, List.length_append,
            List.length_singleton] at hnext
          exact hnext
        have hhere (track : Track) : ends? (rest.course front.length track) = none := by
          have hcourse := hboundary front (' ' :: text) track
          rw [hkeyword.setting?_space, ite_self] at hcourse
          exact hcourse
        rw [hspace, if_pos rfl, passing, Nat.zero_add,
          ends?_shorten_one rfl hbehind hhere, Option.or_none]
        rfl
      · have hnot : CharacterTest.accepts c (.single .exact false 0x20) = false := by
          have hcode : c.toNat ≠ 0x20 := fun hsame => hc (Char.toNat_inj.mp hsame)
          simpa [CharacterTest.accepts, Folding.fold] using hcode
        rw [hnot, if_neg (by simp)]
        have hsame : spacedSetting? keyword value.accepts front.getLast? (c :: text) =
            if startsWord front.getLast? then setting? keyword value.accepts (c :: text)
            else none := by
          rw [spacedSetting?]
          simpa using hc
        rw [hsame]
        exact ends?_shorten_zero rfl (hboundary front (c :: text)) _

end Course

/-! ## Matches -/

/-- What is found is not empty, and in front of the rest. -/
theorem exists_of_setting? {keyword text rest : Text} {inside : Char → Bool}
    (h : setting? keyword inside text = some rest) :
    ∃ used, text = used ++ rest ∧ keyword.length + 1 ≤ used.length := by
  obtain ⟨behind, hkeyword, hclass⟩ := Option.bind_eq_some_iff.mp h
  have hlength := length_of_keyword? hkeyword
  obtain ⟨word, rfl, -⟩ := exists_of_keyword? hkeyword
  cases behind with
  | nil => cases hclass
  | cons c behind =>
      simp only [class?, Option.ite_none_right_eq_some, Option.some.injEq] at hclass
      refine ⟨word ++ c :: behind.takeWhile inside, ?_, ?_⟩
      · rw [List.append_assoc, List.cons_append, ← hclass.2, List.takeWhile_append_dropWhile]
      · rw [List.length_append] at hlength ⊢
        simp only [List.length_cons]
        omega

theorem exists_of_spacedSetting? {keyword text rest : Text} {inside : Char → Bool}
    {previous : Option Char} (h : spacedSetting? keyword inside previous text = some rest) :
    ∃ used, text = used ++ rest ∧ keyword.length + 1 ≤ used.length := by
  rw [spacedSetting?.eq_def] at h
  split at h
  · obtain ⟨used, rfl, hused⟩ := exists_of_setting? h
    exact ⟨' ' :: used, rfl, by simp only [List.length_cons]; omega⟩
  · exact exists_of_setting? (Option.ite_none_right_eq_some.mp h).2

namespace Pattern

/-- A pattern for settings of a keyword. -/
structure IsForSetting (pattern : Pattern) (keyword : Text) (value : CharacterTest) : Prop where
  plan : pattern.plan = settingPlan value keyword
  least : pattern.least = keyword.length + 1
  keyword : IsSettingKeyword keyword

theorem first_of_matchAt? {pattern : Pattern} {subject : Subject} {refuseEmpty : Bool} {place : Nat}
    {found : Match} (h : pattern.matchAt? subject refuseEmpty place = some found) :
    found.first = place := by
  rw [matchAt?] at h
  split at h
  · exact Option.some.inj h ▸ rfl
  · cases h

theorem lt_first_of_matchBehind? {pattern : Pattern} {subject : Subject} {place count : Nat}
    {found : Match} (h : pattern.matchBehind? subject place count = some found) :
    place < found.first := by
  induction count generalizing place with
  | zero => cases h
  | succ count ih =>
      rcases Option.or_eq_some_iff.mp h with hhere | ⟨-, hbehind⟩
      · exact (first_of_matchAt? hhere).symm ▸ Nat.lt_succ_self place
      · exact (Nat.lt_succ_self place).trans (ih hbehind)

/-- A match is found at a place or behind it. -/
theorem le_first_of_find? {pattern : Pattern} {subject : Subject} {refuseEmpty : Bool} {place : Nat}
    {found : Match} (h : pattern.find? subject refuseEmpty place = some found) :
    place ≤ found.first := by
  simp only [find?] at h
  split at h
  · cases h
  · rcases Option.or_eq_some_iff.mp h with hhere | ⟨-, hbehind⟩
    · exact (first_of_matchAt? hhere).ge
    · exact (lt_first_of_matchBehind? hbehind).le

namespace IsForSetting

variable {pattern : Pattern} {keyword : Text} {value : CharacterTest}

/-- A match at a place is told by the text from there on. -/
theorem matchAt?_eq (h : pattern.IsForSetting keyword value) (front text : Text) :
    (pattern.matchAt? (front ++ text).toArray false front.length).map
        (fun found => (found.first, found.last)) =
      (spacedSetting? keyword value.accepts front.getLast? text).map fun rest =>
        (front.length, (front ++ text).length - rest.length) := by
  let stop : Ahead := ⟨none, fun last track =>
    if false && last == front.length then .error track else .ok (track.reach last)⟩
  have hstop : stop.IsFinal := ⟨rfl, fun _ _ => rfl⟩
  have hcourse : ends? ((settingPlan value keyword).course (front ++ text).toArray false stop
      front.length (.start front.length)) =
        (spacedSetting? keyword value.accepts front.getLast? text).map fun rest =>
          (front ++ text).length - rest.length :=
    ends?_settingPlan hstop h.keyword front text (.start front.length)
  have hmatch : (pattern.matchAt? (front ++ text).toArray false front.length).map
      (fun found => (found.first, found.last)) =
        (ends? (pattern.plan.course (front ++ text).toArray false stop front.length
          (.start front.length))).map fun last => (front.length, last) := by
    rw [matchAt?]
    split
    · rename_i track hfound
      rw [hfound]
      rfl
    · rename_i failed hfound
      rw [hfound]
      rfl
  rw [hmatch, h.plan, hcourse, Option.map_map]
  rfl

theorem matchAt?_eq_none (h : pattern.IsForSetting keyword value) {front text : Text}
    (hnone : spacedSetting? keyword value.accepts front.getLast? text = none) :
    pattern.matchAt? (front ++ text).toArray false front.length = none := by
  have hmatch := h.matchAt?_eq front text
  rwa [hnone, Option.map_none, Option.map_eq_none_iff] at hmatch

theorem exists_matchAt? (h : pattern.IsForSetting keyword value) {front used rest : Text}
    (hsome : spacedSetting? keyword value.accepts front.getLast? (used ++ rest) = some rest) :
    ∃ found, pattern.matchAt? (front ++ (used ++ rest)).toArray false front.length = some found ∧
      found.first = front.length ∧ found.last = (front ++ used).length := by
  have hmatch := h.matchAt?_eq front (used ++ rest)
  rw [hsome, Option.map_some] at hmatch
  obtain ⟨found, hfound, hborders⟩ := Option.map_eq_some_iff.mp hmatch
  obtain ⟨hfirst, hlast⟩ := Prod.mk.inj hborders
  refine ⟨found, hfound, hfirst, ?_⟩
  rw [hlast, ← List.append_assoc, List.length_append]
  omega

/-- There is no match where fewer characters are left than the pattern has at least. -/
theorem matchAt?_eq_none_of_lt (h : pattern.IsForSetting keyword value) {subject : Subject}
    {place : Nat} (hplace : place ≤ subject.size) (hlt : subject.size < place + pattern.least) :
    pattern.matchAt? subject false place = none := by
  obtain ⟨front, text, rfl, rfl⟩ : ∃ front text : Text,
      subject = (front ++ text).toArray ∧ place = front.length :=
    ⟨subject.toList.take place, subject.toList.drop place, by simp, by simp [hplace]⟩
  refine h.matchAt?_eq_none ?_
  rw [Option.eq_none_iff_forall_ne_some]
  intro rest hrest
  obtain ⟨used, rfl, hused⟩ := exists_of_spacedSetting? hrest
  rw [h.least] at hlt
  simp only [List.size_toArray, List.length_append] at hlt
  omega

/-- Where there is no match, the search goes on at the next place. -/
theorem find?_of_none (h : pattern.IsForSetting keyword value) {subject : Subject} {place : Nat}
    (hplace : place < subject.size) (hnone : pattern.matchAt? subject false place = none) :
    pattern.find? subject false place = pattern.find? subject false (place + 1) := by
  have hpositive : 0 < pattern.least := by
    rw [h.least]
    omega
  simp only [find?, hnone, Option.none_or]
  obtain hfew | ⟨more, hmore⟩ : subject.size - place ≤ pattern.least ∨
      ∃ more, subject.size - place = pattern.least + more + 1 := by
    by_cases hle : subject.size - place ≤ pattern.least
    · exact .inl hle
    · exact .inr ⟨subject.size - place - pattern.least - 1, by omega⟩
  · -- no place is left at which a match could begin
    have hnext : pattern.matchAt? subject false (place + 1) = none :=
      h.matchAt?_eq_none_of_lt (by omega) (by omega)
    have hright : subject.size - (place + 1) < pattern.least := by omega
    rw [if_pos hright]
    split
    · rfl
    · have hcount : subject.size - place - (pattern.least - 1) = 1 := by omega
      rw [hcount, matchBehind?, hnext]
      rfl
  · have hleft : subject.size - place - (pattern.least - 1) = more + 1 + 1 := by omega
    have hright : subject.size - (place + 1) - (pattern.least - 1) = more + 1 := by omega
    rw [if_neg (by omega), if_neg (by omega), hleft, hright, matchBehind?]

/-- The characters in front of the first match stay. -/
theorem substituteFrom_of_none (h : pattern.IsForSetting keyword value) {front text : Text}
    {c : Char}
    (hnone : spacedSetting? keyword value.accepts front.getLast? (c :: text) = none) (fuel : Nat) :
    pattern.substituteFrom [] (front ++ c :: text).toArray fuel front.length false =
      (pattern.substituteFrom [] (front ++ c :: text).toArray fuel (front.length + 1) false).map
        (c :: ·) := by
  have hbetween {last : Nat} (hlast : front.length < last) :
      Template.between (front ++ c :: text).toArray front.length last =
        c :: Template.between (front ++ c :: text).toArray (front.length + 1) last := by
    obtain ⟨more, rfl⟩ := Nat.exists_eq_add_of_le hlast
    have hhere : front.length.succ + more - front.length = more + 1 := by omega
    have hbehind : front.length.succ + more - (front.length + 1) = more := by omega
    simp only [Template.between, List.extract_toArray, List.extract_eq_take_drop, hhere, hbehind]
    have hnil : front.drop (front.length + 1) = [] := List.drop_eq_nil_of_le (by omega)
    simp [List.drop_append, hnil]
  cases fuel with
  | zero =>
      rw [substituteFrom, substituteFrom, hbetween (by simp)]
      rfl
  | succ fuel =>
      rw [substituteFrom, substituteFrom, h.find?_of_none (by simp) (h.matchAt?_eq_none hnone)]
      cases hfind : pattern.find? (front ++ c :: text).toArray false (front.length + 1) with
      | none =>
          simp only []
          rw [hbetween (by simp)]
          rfl
      | some found =>
          have hfirst : front.length + 1 ≤ found.first := le_first_of_find? hfind
          simp only []
          rw [hbetween (by omega)]
          cases pattern.replacement [] (front ++ c :: text).toArray found with
          | error problem => rfl
          | ok replaced =>
              cases pattern.substituteFrom [] (front ++ c :: text).toArray fuel found.last
                (decide (found.last = found.first)) <;> rfl

/-- The first match goes, and what is behind it is gone through from its end on. -/
theorem substituteFrom_of_some (h : pattern.IsForSetting keyword value) {front used rest : Text}
    (hsome : spacedSetting? keyword value.accepts front.getLast? (used ++ rest) = some rest)
    (hused : keyword.length + 1 ≤ used.length) (fuel : Nat) :
    pattern.substituteFrom [] (front ++ (used ++ rest)).toArray (fuel + 1) front.length false =
      pattern.substituteFrom [] (front ++ (used ++ rest)).toArray fuel (front ++ used).length
        false := by
  obtain ⟨found, hmatch, hfirst, hlast⟩ := h.exists_matchAt? hsome
  have hfind : pattern.find? (front ++ (used ++ rest)).toArray false front.length = some found := by
    have hleft : ¬ (front ++ (used ++ rest)).toArray.size - front.length < pattern.least := by
      rw [h.least, List.size_toArray, List.length_append, List.length_append]
      omega
    simp only [find?, if_neg hleft, hmatch, Option.some_or]
  have hlonger : decide (found.last = found.first) = false := by
    rw [hlast, hfirst, List.length_append]
    exact decide_eq_false (by omega)
  have hnothing : Template.between (front ++ (used ++ rest)).toArray front.length front.length =
      [] := by simp [Template.between]
  rw [substituteFrom, hfind]
  simp only [hlonger]
  rw [hlast, hfirst, hnothing]
  cases pattern.substituteFrom [] (front ++ (used ++ rest)).toArray fuel (front ++ used).length
    false <;> rfl

/-- From a place on, what stays is told by the text from there on. -/
theorem substituteFrom_eq (h : pattern.IsForSetting keyword value) (front text : Text) {fuel : Nat}
    (hfuel : text.length < fuel) :
    pattern.substituteFrom [] (front ++ text).toArray fuel front.length false =
      .ok (replaceMatchesFrom (removedSetting? keyword value.accepts) front.getLast? 0 text) := by
  induction hn : text.length using Nat.strong_induction_on generalizing front text fuel with
  | _ n ih =>
      cases text with
      | nil =>
          have hnone : pattern.find? (front ++ []).toArray false front.length = none := by
            have hleft : (front ++ []).toArray.size - front.length < pattern.least := by
              rw [h.least]
              simp
            simp only [find?, if_pos hleft]
          obtain ⟨fuel, rfl⟩ := Nat.exists_eq_add_of_lt hfuel
          rw [substituteFrom, hnone]
          simp [Template.between, replaceMatchesFrom]
      | cons c text =>
          cases hfound : spacedSetting? keyword value.accepts front.getLast? (c :: text) with
          | none =>
              have hfewer : text.length < fuel := by
                simp only [List.length_cons] at hfuel
                omega
              have hrest := ih text.length (by simp [← hn]) (front ++ [c]) text hfewer rfl
              rw [List.append_assoc, List.singleton_append, List.length_append,
                List.length_singleton, List.getLast?_concat] at hrest
              rw [h.substituteFrom_of_none hfound, hrest,
                replaceMatchesFrom_of_none (by rw [removedSetting?, hfound]; rfl)]
              rfl
          | some rest =>
              obtain ⟨used, heq, hused⟩ := exists_of_spacedSetting? hfound
              have hne : used ≠ [] := by
                rintro rfl
                simp at hused
              rw [heq] at hfound hfuel hn ⊢
              obtain ⟨fuel, rfl⟩ : ∃ more, fuel = more + 1 := ⟨fuel - 1, by omega⟩
              rw [List.length_append] at hfuel hn
              have hfewer : rest.length < fuel := by omega
              have hrest := ih rest.length (by omega) (front ++ used) rest hfewer rfl
              rw [List.append_assoc, List.getLast?_append_of_ne_nil _ hne] at hrest
              rw [h.substituteFrom_of_some hfound hused, hrest,
                replaceMatchesFrom_of_some hne (by rw [removedSetting?, hfound]; rfl)]
              rfl

/-- Replacing all matches by nothing takes out the settings. -/
theorem substitute_eq (h : pattern.IsForSetting keyword value) (text : Text) :
    pattern.substitute [] text = .ok (withoutSetting keyword value.accepts text) :=
  h.substituteFrom_eq [] text (by simp only [List.size_toArray]; omega)

end IsForSetting

end Pattern

end SchemaMigration
