import EntityQuery.Json.Printer
import EntityQuery.Json.Reader
import Mathlib.Data.List.Basic
import Mathlib.Data.List.TakeWhile

namespace EntityQuery.Json

/-- A document in which every number is written as one. -/
inductive Written : Json → Prop
  | null : Written .null
  | bool (value) : Written (.bool value)
  | number {literal} (hnumber : Reader.isNumber literal.toList = true) : Written (.number literal)
  | string (text) : Written (.string text)
  | brokenString : Written .brokenString
  | array {items} (hitems : ∀ item ∈ items, Written item) : Written (.array items)
  | object {members} (hmembers : ∀ member ∈ members, Written member.2) : Written (.object members)

theorem Written.ofMembers {members : List (String × Json)}
    (h : ∀ member ∈ members, Written member.2) : Written (.ofMembers members) :=
  .object (List.forall_mem_map.mpr h)

namespace Reader

variable {reader : Reader} {expected : Expected} {stack outer : List Frame} {c : Char}
  {rest : List Char} {json : Json}

/-- What a document is whose last part is still to be read. -/
def readRest (reader : Reader) (text : List Char) : Option Json := do
  (← text.foldlM step reader).finish

theorem readRest_nil (reader : Reader) : reader.readRest [] = reader.finish := rfl

theorem readRest_cons (reader : Reader) (c : Char) (rest : List Char) :
    reader.readRest (c :: rest) = (reader.step c).bind fun next => next.readRest rest := by
  rw [readRest, List.foldlM_cons]
  exact bind_assoc _ _ _

/-- The rest of a document after a character that takes the reader to its next state. -/
theorem readRest_step {next : Reader} (hstep : reader.step c = some next) (rest : List Char) :
    reader.readRest (c :: rest) = next.readRest rest := by
  rw [readRest_cons, hstep, Option.bind_some]

/-- A reader between two parts of a document. -/
def pausing (expected : Expected) (stack : List Frame) : Reader := ⟨.between, expected, stack, none⟩

/-- A reader that has just taken in a value. -/
def taken (json : Json) : List Frame → Reader
  | [] => ⟨.between, .separator, [], some json⟩
  | .array items :: outer => pausing .separator (.array (json :: items) :: outer)
  | .object members key :: outer =>
    pausing .separator (.object ((key, json) :: members) none :: outer)

/-- What a reader expects that is about to take in a value. -/
def ExpectsValue (expected : Expected) : Prop := expected = .value ∨ expected = .firstItem

theorem complete_eq (mode : Mode) (h : ExpectsValue expected) (stack : List Frame) (json : Json) :
    complete ⟨mode, expected, stack, none⟩ json = some (taken json stack) := by
  rcases h with rfl | rfl
  · rcases stack with - | ⟨- | -⟩ <;> rfl
  · rcases stack with - | ⟨- | -⟩ <;> rfl

/-- What a string is completed to does not depend on its letters. -/
private theorem completeString_mode (mode : Mode) (text : Option String) :
    completeString ⟨mode, expected, stack, none⟩ text =
      completeString (pausing expected stack) text := by
  rcases stack with - | ⟨- | -⟩ <;> cases text <;> rfl

private theorem isWordChar_of_isDigit (h : c.isDigit = true) : isWordChar c = true := by
  simp [isWordChar, Char.isAlphanum, h]

private theorem isWordChar_of_digits {digits : List Char}
    (h : (!digits.isEmpty && digits.all Char.isDigit) = true) :
    ∀ c ∈ digits, isWordChar c = true := by
  intro c hc
  rw [Bool.and_eq_true, List.all_eq_true] at h
  exact isWordChar_of_isDigit (h.2 c hc)

private theorem forall_mem_of_dropWhile {P : Char → Prop} {text : List Char}
    (hdigit : ∀ c, c.isDigit = true → P c) (h : ∀ c ∈ text.dropWhile Char.isDigit, P c) :
    ∀ c ∈ text, P c := by
  intro c hc
  rw [← List.takeWhile_append_dropWhile (p := Char.isDigit) (l := text)] at hc
  rcases List.mem_append.mp hc with hc | hc
  · exact hdigit c (List.mem_takeWhile_imp hc)
  · exact h c hc

private theorem isWordChar_of_isFraction {text : List Char} (h : isFraction text = true) :
    ∀ c ∈ text, isWordChar c = true := by
  refine forall_mem_of_dropWhile (fun c => isWordChar_of_isDigit) ?_
  unfold isFraction at h
  generalize text.dropWhile Char.isDigit = exponent at h
  cases exponent with
  | nil => exact fun c hc => absurd hc List.not_mem_nil
  | cons mark exponent =>
    simp only [Bool.and_eq_true, Bool.or_eq_true, beq_iff_eq] at h
    obtain ⟨-, hmark, hexponent⟩ := h
    refine List.forall_mem_cons.mpr ⟨?_, ?_⟩
    · rcases hmark with rfl | rfl <;> decide
    · split at hexponent
      · exact List.forall_mem_cons.mpr ⟨by decide, isWordChar_of_digits hexponent⟩
      · exact List.forall_mem_cons.mpr ⟨by decide, isWordChar_of_digits hexponent⟩
      · exact isWordChar_of_digits hexponent

private theorem isWordChar_of_afterWhole {rest : List Char}
    (h : (match rest with
      | [] => true
      | '.' :: fraction => isFraction fraction
      | rest => isFraction ('0' :: rest)) = true) : ∀ c ∈ rest, isWordChar c = true := by
  split at h
  · exact fun c hc => absurd hc List.not_mem_nil
  · exact List.forall_mem_cons.mpr ⟨by decide, isWordChar_of_isFraction h⟩
  · exact (List.forall_mem_cons.mp (isWordChar_of_isFraction h)).2

theorem isWordChar_of_isNumber {text : List Char} (h : isNumber text = true) :
    ∀ c ∈ text, isWordChar c = true := by
  unfold isNumber at h
  split at h
  · have hafter := isWordChar_of_afterWhole (Bool.and_eq_true_iff.mp h).2
    exact List.forall_mem_cons.mpr
      ⟨by decide, forall_mem_of_dropWhile (fun c => isWordChar_of_isDigit) hafter⟩
  · have hafter := isWordChar_of_afterWhole (Bool.and_eq_true_iff.mp h).2
    exact forall_mem_of_dropWhile (fun c => isWordChar_of_isDigit) hafter

/-- What follows a value has no character of a word in front. -/
def EndsWord (rest : List Char) : Prop := ∀ c ∈ rest.head?, isWordChar c = false

private theorem readBetween_of_isWordChar (h : isWordChar c = true) (reader : Reader) :
    reader.readBetween c = some { reader with mode := .word [c] } := by
  unfold readBetween
  split
  case h_12 => exact if_pos h
  all_goals exact absurd h (by decide)

private theorem readRest_wordChars {word : List Char} (h : ∀ c ∈ word, isWordChar c = true)
    (read rest : List Char) :
    readRest ⟨.word read, expected, stack, none⟩ (word ++ rest) =
      readRest ⟨.word (word.reverse ++ read), expected, stack, none⟩ rest := by
  induction word generalizing read with
  | nil => rfl
  | cons c word ih =>
    obtain ⟨hc, hword⟩ := List.forall_mem_cons.mp h
    have hstep : step ⟨.word read, expected, stack, none⟩ c =
        some ⟨.word (c :: read), expected, stack, none⟩ := if_pos hc
    rw [List.cons_append, readRest_step hstep, ih hword, List.reverse_cons, List.append_assoc]
    rfl

private theorem finish_taken (json : Json) (stack : List Frame) :
    (taken json stack).finish = (taken json stack).result := by
  rcases stack with - | ⟨- | -⟩ <;> rfl

private theorem step_taken (json : Json) (stack : List Frame) (c : Char) :
    (taken json stack).step c = (taken json stack).readBetween c := by
  rcases stack with - | ⟨- | -⟩ <;> rfl

private theorem readRest_endWord {word : List Char} (hword : wordValue? word = some json)
    (hexpected : ExpectsValue expected) (hrest : EndsWord rest) :
    readRest ⟨.word word.reverse, expected, stack, none⟩ rest =
      readRest (taken json stack) rest := by
  have hend : endWord ⟨.word word.reverse, expected, stack, none⟩ word.reverse =
      some (taken json stack) := by
    rw [endWord, List.reverse_reverse, hword]
    exact complete_eq .between hexpected stack json
  cases rest with
  | nil =>
    have hfinish : finish ⟨.word word.reverse, expected, stack, none⟩ =
        (endWord ⟨.word word.reverse, expected, stack, none⟩ word.reverse).bind (·.result) := rfl
    rw [readRest_nil, readRest_nil, finish_taken, hfinish, hend, Option.bind_some]
  | cons c rest =>
    have hstep : step ⟨.word word.reverse, expected, stack, none⟩ c =
        (endWord ⟨.word word.reverse, expected, stack, none⟩ word.reverse).bind (·.readBetween c) :=
      if_neg (Bool.not_eq_true _ ▸ hrest c rfl)
    rw [readRest_cons, readRest_cons, step_taken, hstep, hend, Option.bind_some]

/-- A word that has a value is read as this value. -/
theorem readRest_word {word : List Char} (hword : wordValue? word = some json)
    (hchars : ∀ c ∈ word, isWordChar c = true) (hexpected : ExpectsValue expected)
    (hrest : EndsWord rest) :
    readRest (pausing expected stack) (word ++ rest) = readRest (taken json stack) rest := by
  cases word with
  | nil => cases hword
  | cons c word =>
    obtain ⟨hc, hchars⟩ := List.forall_mem_cons.mp hchars
    have hstep : step (pausing expected stack) c = some ⟨.word [c], expected, stack, none⟩ :=
      readBetween_of_isWordChar hc _
    rw [List.cons_append, readRest_step hstep, readRest_wordChars hchars, ← List.reverse_cons,
      readRest_endWord hword hexpected hrest]

theorem wordValue?_of_isNumber {literal : String} (h : isNumber literal.toList = true) :
    wordValue? literal.toList = some (.number literal) := by
  unfold wordValue?
  rw [String.ofList_toList]
  split
  case h_4 => exact if_pos h
  all_goals exact absurd h (by decide)

private theorem eq_zero_of_head?_toDigits {n : Nat} (h : (Nat.toDigits 10 n).head? = some '0') :
    n = 0 := by
  induction n using Nat.strongRecOn with
  | ind n ih =>
    by_cases hlt : n < 10
    · rw [Nat.toDigits_of_lt_base hlt, List.head?_singleton, Option.some.injEq] at h
      have hdigit : ∀ digit < 10, Nat.digitChar digit = '0' → digit = 0 := by decide
      exact hdigit n hlt h
    · obtain ⟨c, rest, hdigits⟩ :=
        List.exists_cons_of_ne_nil (Nat.toDigits_ne_nil : Nat.toDigits 10 (n / 10) ≠ [])
      rw [Nat.toDigits_of_base_le (by decide) (Nat.le_of_not_lt hlt), hdigits] at h
      have hzero := ih (n / 10) (by omega) (by rw [hdigits]; exact h)
      omega

theorem isNumber_toString (n : Nat) : isNumber (toString n).toList = true := by
  have hdigit : ∀ c ∈ Nat.toDigits 10 n, c.isDigit = true := fun c hc =>
    Nat.isDigit_of_mem_toDigits (by decide) (by decide) hc
  have hwhole : (Nat.toDigits 10 n).takeWhile Char.isDigit = Nat.toDigits 10 n :=
    List.takeWhile_eq_self_iff.mpr hdigit
  have hrest : (Nat.toDigits 10 n).dropWhile Char.isDigit = [] :=
    List.dropWhile_eq_nil_iff.mpr hdigit
  have hzero :
      ((Nat.toDigits 10 n).head? != some '0' || (Nat.toDigits 10 n).length == 1) = true := by
    by_cases hhead : (Nat.toDigits 10 n).head? = some '0'
    · rw [eq_zero_of_head?_toDigits hhead]
      rfl
    · rw [bne_iff_ne.mpr hhead, Bool.true_or]
  rw [Nat.toString_eq_ofList_toDigits, String.toList_ofList, isNumber, hwhole, hrest, hzero,
    List.isEmpty_eq_false_iff.mpr Nat.toDigits_ne_nil]
  · rfl
  · intro rest hminus
    exact absurd (hdigit '-' (hminus ▸ List.mem_cons_self)) (by decide)

/-- A reader within a string. -/
def within (read : List Char) (expected : Expected) (stack : List Frame) : Reader :=
  ⟨.string ⟨read, none, false⟩, expected, stack, none⟩

private theorem hexValue?_digitChar :
    ∀ digit < 16, Text.hexValue? (Nat.digitChar digit) = some digit := by
  decide

private theorem step_within (hquote : c ≠ '"') (hescape : c ≠ '\\')
    (hcontrol : ¬ c.toNat < 0x20) (read : List Char) :
    (within read expected stack).step c = some (within (c :: read) expected stack) := by
  have hstep : (within read expected stack).step c =
      if c == '"' then completeString ⟨.string ⟨read, none, false⟩, expected, stack, none⟩
        (Letters.text? ⟨read, none, false⟩)
      else if c == '\\' then some ⟨.escape ⟨read, none, false⟩, expected, stack, none⟩
      else if c.toNat < 0x20 then none
      else some (within (c :: read) expected stack) := rfl
  rw [hstep, if_neg (by simpa using hquote), if_neg (by simpa using hescape), if_neg hcontrol]

private theorem step_codeUnit {letters : Letters} {digit : Nat}
    (hdigit : Text.hexValue? c = some digit) (digits : List Nat) :
    step ⟨.codeUnit letters digits, expected, stack, none⟩ c =
      if (digits ++ [digit]).length == 4 then
        some ⟨.string (letters.pushUnit ((digits ++ [digit]).foldl (16 * · + ·) 0)), expected,
          stack, none⟩
      else some ⟨.codeUnit letters (digits ++ [digit]), expected, stack, none⟩ := by
  rw [step, hdigit]
  rfl

/-- A control is written by its number in four digits, of which the first two are zeros. -/
private theorem readRest_control (hcontrol : c.toNat < 0x20) (read rest : List Char) :
    readRest (within read expected stack) (['\\', 'u', '0', '0', Nat.digitChar (c.toNat / 16),
        Nat.digitChar (c.toNat % 16)] ++ rest) =
      readRest (within (c :: read) expected stack) rest := by
  have hhigh := hexValue?_digitChar (c.toNat / 16) (by omega)
  have hlow := hexValue?_digitChar (c.toNat % 16) (by omega)
  have hvalue : [0, 0, c.toNat / 16, c.toNat % 16].foldl (16 * · + ·) 0 = c.toNat := by
    simp only [List.foldl_cons, List.foldl_nil]
    omega
  have hunit : (Letters.mk read none false).pushUnit c.toNat = ⟨c :: read, none, false⟩ := by
    unfold Letters.pushUnit
    rw [if_neg (by simp; omega), if_neg (by simp; omega), Char.ofNat_toNat]
    rfl
  have hlast : step ⟨.codeUnit ⟨read, none, false⟩ [0, 0, c.toNat / 16], expected, stack, none⟩
      (Nat.digitChar (c.toNat % 16)) = some ⟨.string (Letters.pushUnit ⟨read, none, false⟩
        ([0, 0, c.toNat / 16, c.toNat % 16].foldl (16 * · + ·) 0)), expected, stack, none⟩ :=
    step_codeUnit hlow _
  rw [hvalue, hunit] at hlast
  exact (readRest_step (step_codeUnit hhigh [0, 0]) _).trans (readRest_step hlast rest)

private theorem readRest_escapedChar (read : List Char) (c : Char) (rest : List Char) :
    readRest (within read expected stack) (escapedChar c ++ rest) =
      readRest (within (c :: read) expected stack) rest := by
  unfold escapedChar
  split
  case h_8 hquote hescape _ _ _ _ _ =>
    split
    case isTrue hcontrol => exact readRest_control hcontrol read rest
    case isFalse hcontrol => exact readRest_step (step_within hquote hescape hcontrol read) rest
  all_goals rfl

private theorem readRest_escaped (read text rest : List Char) :
    readRest (within read expected stack) (text.flatMap escapedChar ++ rest) =
      readRest (within (text.reverse ++ read) expected stack) rest := by
  induction text generalizing read with
  | nil => rfl
  | cons c text ih =>
    rw [List.flatMap_cons, List.append_assoc, readRest_escapedChar, ih, List.reverse_cons,
      List.append_assoc]
    rfl

/-- A string is completed with the text that it was written for. -/
theorem readRest_stringText (text : String) (rest : List Char) :
    readRest (pausing expected stack) (stringText text ++ rest) =
      (completeString (pausing expected stack) (some text)).bind
        fun next => next.readRest rest := by
  have hquote : step (pausing expected stack) '"' = some (within [] expected stack) := rfl
  rw [stringText, List.cons_append, readRest_step hquote, List.append_assoc, readRest_escaped,
    List.append_nil, List.singleton_append, readRest_cons]
  have hend : step (within text.toList.reverse expected stack) '"' =
      completeString ⟨.string ⟨text.toList.reverse, none, false⟩, expected, stack, none⟩
        (some (String.ofList text.toList.reverse.reverse)) := rfl
  rw [hend, List.reverse_reverse, String.ofList_toList, completeString_mode]

theorem readRest_brokenText (rest : List Char) :
    readRest (pausing expected stack) (brokenText ++ rest) =
      (completeString (pausing expected stack) none).bind fun next => next.readRest rest := by
  have htext : brokenText = ['"', '\\', 'u', 'd', '8', '0', '0', '"'] := by decide
  have hend : step ⟨.string ⟨[], some 0xd800, false⟩, expected, stack, none⟩ '"' =
      completeString ⟨.string ⟨[], some 0xd800, false⟩, expected, stack, none⟩ none := rfl
  rw [htext, ← completeString_mode (.string ⟨[], some 0xd800, false⟩), ← hend]
  exact readRest_cons ⟨.string ⟨[], some 0xd800, false⟩, expected, stack, none⟩ '"' rest

theorem readRest_key {members : List (Option String × Json)} {before : Option String}
    (hexpected : expected = .firstKey ∨ expected = .key) (key : Option String) (rest : List Char) :
    readRest (pausing expected (.object members before :: outer)) (keyText key ++ ':' :: rest) =
      readRest (pausing .value (.object members key :: outer)) rest := by
  have hcomplete : completeString (pausing expected (.object members before :: outer)) key =
      some (pausing .colon (.object members key :: outer)) := by
    rcases hexpected with rfl | rfl <;> rfl
  have hcolon : step (pausing .colon (.object members key :: outer)) ':' =
      some (pausing .value (.object members key :: outer)) := rfl
  cases key with
  | none =>
    refine (readRest_brokenText (':' :: rest)).trans ?_
    rw [hcomplete, Option.bind_some, readRest_step hcolon]
  | some text =>
    refine (readRest_stringText text (':' :: rest)).trans ?_
    rw [hcomplete, Option.bind_some, readRest_step hcolon]

/-- Whether a value is read as such, wherever one is expected. -/
def ReadsBack (json : Json) : Prop :=
  ∀ ⦃expected : Expected⦄, ExpectsValue expected → ∀ (stack : List Frame) ⦃rest : List Char⦄,
    EndsWord rest → readRest (pausing expected stack) (write json ++ rest) =
      readRest (taken json stack) rest

theorem ExpectsValue.ne_key (h : ExpectsValue expected) :
    (expected == .firstKey || expected == .key) = false := by
  rcases h with rfl | rfl <;> rfl

theorem readsBack_string (text : String) : ReadsBack (.string text) := by
  intro expected hexpected stack rest _
  rw [write, readRest_stringText, completeString, pausing, hexpected.ne_key,
    if_neg Bool.false_ne_true, complete_eq .between hexpected, Option.bind_some]

theorem readsBack_brokenString : ReadsBack .brokenString := by
  intro expected hexpected stack rest _
  rw [write, readRest_brokenText, completeString, pausing, hexpected.ne_key,
    if_neg Bool.false_ne_true, complete_eq .between hexpected, Option.bind_some]

theorem endsWord_cons (h : isWordChar c = false) (rest : List Char) : EndsWord (c :: rest) := by
  rintro _ ⟨⟩
  exact h

private theorem step_closeArray (hexpected : expected = .firstItem ∨ expected = .separator)
    (items : List Json) (outer : List Frame) :
    step (pausing expected (.array items :: outer)) ']' =
      some (taken (.array items.reverse) outer) := by
  have hcomplete : complete (pausing .value outer) (.array items.reverse) = _ :=
    complete_eq .between (.inl rfl) outer _
  rcases hexpected with rfl | rfl <;> exact hcomplete

private theorem step_closeObject (hexpected : expected = .firstKey ∨ expected = .separator)
    (members : List (Option String × Json)) (key : Option String) (outer : List Frame) :
    step (pausing expected (.object members key :: outer)) '\x7d' =
      some (taken (.object members.reverse) outer) := by
  have hcomplete : complete (pausing .value outer) (.object members.reverse) = _ :=
    complete_eq .between (.inl rfl) outer _
  rcases hexpected with rfl | rfl <;> exact hcomplete

/-- The items before are those that the array already has, the last one first. -/
private theorem readRest_items {items : List Json} (hitems : ∀ item ∈ items, ReadsBack item)
    (hne : items ≠ []) (hexpected : ExpectsValue expected) (before : List Json)
    (outer : List Frame) (rest : List Char) :
    readRest (pausing expected (.array before :: outer)) (writeItems items ++ ']' :: rest) =
      readRest (taken (.array (before.reverse ++ items)) outer) rest := by
  induction items generalizing before expected with
  | nil => exact absurd rfl hne
  | cons item others ih =>
    obtain ⟨hitem, hothers⟩ := List.forall_mem_cons.mp hitems
    cases others with
    | nil =>
      have hclose := step_closeArray (.inr rfl) (item :: before) outer
      rw [writeItems, hitem hexpected _ (endsWord_cons (by decide) rest), taken,
        readRest_step hclose, List.reverse_cons]
    | cons next others =>
      have hnext : step (pausing .separator (.array (item :: before) :: outer)) ',' =
          some (pausing .value (.array (item :: before) :: outer)) := rfl
      rw [writeItems, List.append_assoc, List.cons_append,
        hitem hexpected _ (endsWord_cons (by decide) _), taken, readRest_step hnext,
        ih hothers (List.cons_ne_nil _ _) (.inl rfl), List.reverse_cons, List.append_assoc,
        List.singleton_append]

private theorem readRest_members {members : List (Option String × Json)}
    (hmembers : ∀ member ∈ members, ReadsBack member.2) (hne : members ≠ [])
    (hexpected : expected = .firstKey ∨ expected = .key)
    (before : List (Option String × Json)) (key : Option String) (outer : List Frame)
    (rest : List Char) :
    readRest (pausing expected (.object before key :: outer))
        (writeMembers members ++ '\x7d' :: rest) =
      readRest (taken (.object (before.reverse ++ members)) outer) rest := by
  induction members generalizing before expected key with
  | nil => exact absurd rfl hne
  | cons member others ih =>
    obtain ⟨name, value⟩ := member
    obtain ⟨hvalue, hothers⟩ := List.forall_mem_cons.mp hmembers
    cases others with
    | nil =>
      have hclose := step_closeObject (.inr rfl) ((name, value) :: before) none outer
      rw [writeMembers, List.append_assoc, List.cons_append, readRest_key hexpected,
        hvalue (.inl rfl) _ (endsWord_cons (by decide) rest), taken, readRest_step hclose,
        List.reverse_cons]
    | cons next others =>
      have hnext : step (pausing .separator (.object ((name, value) :: before) none :: outer)) ',' =
          some (pausing .key (.object ((name, value) :: before) none :: outer)) := rfl
      rw [writeMembers, List.append_assoc, List.append_assoc, List.cons_append,
        readRest_key hexpected, List.cons_append, hvalue (.inl rfl) _ (endsWord_cons (by decide) _),
        taken, readRest_step hnext, ih hothers (List.cons_ne_nil _ _) (.inr rfl),
        List.reverse_cons, List.append_assoc, List.singleton_append]

private theorem step_open (hexpected : ExpectsValue expected) (stack : List Frame) :
    step (pausing expected stack) '[' = some (pausing .firstItem (.array [] :: stack)) ∧
    step (pausing expected stack) '\x7b' = some (pausing .firstKey (.object [] none :: stack)) := by
  rcases hexpected with rfl | rfl <;> exact ⟨rfl, rfl⟩

theorem readsBack_array {items : List Json} (hitems : ∀ item ∈ items, ReadsBack item) :
    ReadsBack (.array items) := by
  intro expected hexpected stack rest _
  rw [write, List.cons_append, readRest_step (step_open hexpected stack).1, List.append_assoc,
    List.singleton_append]
  cases items with
  | nil => exact readRest_step (step_closeArray (.inl rfl) [] stack) rest
  | cons item others =>
    exact readRest_items hitems (List.cons_ne_nil _ _) (.inr rfl) [] stack rest

theorem readsBack_object {members : List (Option String × Json)}
    (hmembers : ∀ member ∈ members, ReadsBack member.2) : ReadsBack (.object members) := by
  intro expected hexpected stack rest _
  rw [write, List.cons_append, readRest_step (step_open hexpected stack).2, List.append_assoc,
    List.singleton_append]
  cases members with
  | nil => exact readRest_step (step_closeObject (.inl rfl) [] none stack) rest
  | cons member others =>
    exact readRest_members hmembers (List.cons_ne_nil _ _) (.inl rfl) [] none stack rest

theorem readsBack_word {word : List Char} (hwrite : write json = word)
    (hword : wordValue? word = some json) (hchars : word.all isWordChar = true) :
    ReadsBack json := by
  intro expected hexpected stack rest hrest
  rw [hwrite]
  exact readRest_word hword (List.all_eq_true.mp hchars) hexpected hrest

theorem readsBack_of_written (h : Written json) : ReadsBack json := by
  induction h with
  | null =>
    have hwrite : write .null = ['n', 'u', 'l', 'l'] := rfl
    exact readsBack_word hwrite rfl rfl
  | bool value =>
    cases value with
    | true =>
      have hwrite : write (.bool true) = ['t', 'r', 'u', 'e'] := rfl
      exact readsBack_word hwrite rfl rfl
    | false =>
      have hwrite : write (.bool false) = ['f', 'a', 'l', 's', 'e'] := rfl
      exact readsBack_word hwrite rfl rfl
  | number hnumber =>
    exact readsBack_word (by rw [write]) (wordValue?_of_isNumber hnumber)
      (List.all_eq_true.mpr (isWordChar_of_isNumber hnumber))
  | string text => exact readsBack_string text
  | brokenString => exact readsBack_brokenString
  | array _ ih => exact readsBack_array ih
  | object _ ih => exact readsBack_object ih

end Reader

/-- A document is read from the text that is written for it. -/
theorem read?_render {json : Json} (h : Written json) : read? json.render = some json := by
  have hread : Reader.start.readRest (write json ++ []) = (Reader.taken json []).readRest [] :=
    Reader.readsBack_of_written h (.inl rfl) [] fun _ hc => nomatch hc
  rw [List.append_nil] at hread
  rw [read?, render, String.toList_ofList]
  exact hread

end EntityQuery.Json
