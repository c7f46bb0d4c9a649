import PadCapture.Params.Text

/-!
# Reading back the text form

Escaped text contains no separator, so splitting at the separators gives back the
escaped keys and values, and decoding gives back what was escaped.  Pairs in increasing
order of keys are inserted one after another, so the text form of a set is read as the
set itself.
-/

namespace PadCapture

section Sorting

variable {α : Type}

/-- A key that is greater than all others is inserted last. -/
theorem insertSorted_of_greatest {key : String} {value : α} {entries : List (String × α)}
    (greatest : ∀ entry ∈ entries, entry.1 < key) :
    insertSorted key value entries = entries ++ [(key, value)] := by
  induction entries with
  | nil => rfl
  | cons entry rest ih =>
      have below : entry.1 < key := greatest entry List.mem_cons_self
      have notAbove : ¬ key < entry.1 := String.lt_asymm below
      have different : key ≠ entry.1 := by
        intro same
        rw [same] at below
        exact String.lt_irrefl _ below
      rw [insertSorted, if_neg notAbove, if_neg different, List.cons_append,
        ih fun other member => greatest other (List.mem_cons_of_mem _ member)]

theorem foldl_insertSorted (sorted rest : List (String × α))
    (increase : KeysIncrease (sorted ++ rest)) :
    rest.foldl (fun sorted entry => insertSorted entry.1 entry.2 sorted) sorted =
      sorted ++ rest := by
  induction rest generalizing sorted with
  | nil => simp
  | cons entry rest ih =>
      have greatest : ∀ other ∈ sorted, other.1 < entry.1 := fun other member =>
        (List.pairwise_append.mp increase).2.2 other member entry List.mem_cons_self
      have regrouped : sorted ++ entry :: rest = sorted ++ [entry] ++ rest := by simp
      rw [List.foldl_cons, insertSorted_of_greatest greatest, regrouped]
      apply ih
      rwa [← regrouped]

/-- Entries that are in order stay as they are. -/
theorem sortEntries_of_keysIncrease {entries : List (String × α)}
    (increase : KeysIncrease entries) : sortEntries entries = entries := by
  rw [sortEntries, foldl_insertSorted [] entries increase, List.nil_append]

end Sorting

namespace Params

section Escaping

theorem ne_separators_of_mem_escapeChar {c written : Char} (member : written ∈ escapeChar c) :
    written ≠ ':' ∧ written ≠ ',' := by
  unfold escapeChar at member
  split at member
  · simp only [List.mem_cons, List.not_mem_nil, or_false] at member
    rcases member with rfl | rfl <;> decide
  · rename_i notColon
    split at member
    · simp only [List.mem_cons, List.not_mem_nil, or_false] at member
      rcases member with rfl | rfl <;> decide
    · rename_i notComma
      split at member
      · simp only [List.mem_cons, List.not_mem_nil, or_false] at member
        rcases member with rfl | rfl <;> decide
      · rw [List.mem_singleton.mp member]
        exact ⟨notColon, notComma⟩

/-- Escaped text contains neither separator. -/
theorem ne_separators_of_mem_escape {text : List Char} {written : Char}
    (member : written ∈ escape text) : written ≠ ':' ∧ written ≠ ',' := by
  obtain ⟨c, -, inChar⟩ := List.mem_flatMap.mp member
  exact ne_separators_of_mem_escapeChar inChar

theorem colon_notMem_escape (text : List Char) : ':' ∉ escape text :=
  fun member => (ne_separators_of_mem_escape member).1 rfl

theorem comma_notMem_escape (text : List Char) : ',' ∉ escape text :=
  fun member => (ne_separators_of_mem_escape member).2 rfl

theorem unescape_cons_of_ne {c : Char} (plain : c ≠ '$') (rest : List Char) :
    unescape (c :: rest) = (unescape rest).map (c :: ·) := by
  cases rest with
  | nil => simp [unescape, plain]
  | cons next rest => rw [unescape, if_neg plain]

theorem unescape_code {code decoded : Char} (known : codeChar? code = some decoded)
    (rest : List Char) :
    unescape ('$' :: code :: rest) = (unescape rest).map (decoded :: ·) := by
  rw [unescape, if_pos rfl, known]
  cases unescape rest <;> rfl

theorem unescape_escapeChar (c : Char) (rest : List Char) :
    unescape (escapeChar c ++ rest) = (unescape rest).map (c :: ·) := by
  unfold escapeChar
  split
  · rename_i colon
    subst colon
    exact unescape_code rfl rest
  · split
    · rename_i comma
      subst comma
      exact unescape_code rfl rest
    · split
      · rename_i dollar
        subst dollar
        exact unescape_code rfl rest
      · rename_i plain
        exact unescape_cons_of_ne plain rest

theorem unescape_escape (text : List Char) : unescape (escape text) = some text := by
  induction text with
  | nil => rfl
  | cons c rest ih =>
      rw [escape, List.flatMap_cons, unescape_escapeChar]
      change (unescape (escape rest)).map _ = _
      rw [ih]
      rfl

end Escaping

section Splitting

variable {separator : Char}

theorem pieces_of_notMem {text : List Char} (absent : separator ∉ text) :
    pieces separator text = [text] := by
  induction text with
  | nil => rfl
  | cons c rest ih =>
      rw [List.mem_cons, not_or] at absent
      obtain ⟨different, absent⟩ := absent
      rw [pieces, if_neg (Ne.symm different), ih absent]

theorem pieces_append {first : List Char} (absent : separator ∉ first) (rest : List Char) :
    pieces separator (first ++ separator :: rest) = first :: pieces separator rest := by
  induction first with
  | nil => simp [pieces]
  | cons c first ih =>
      rw [List.mem_cons, not_or] at absent
      obtain ⟨different, absent⟩ := absent
      rw [List.cons_append, pieces, if_neg (Ne.symm different), ih absent]

end Splitting

theorem readPart_escape (text : String) : readPart (escape text.toList) = .ok text := by
  rw [readPart, unescape_escape]
  simp

theorem readPair_entryText (entry : String × String) : readPair (entryText entry) = .ok entry := by
  have split : pieces ':' (entryText entry) =
      [escape entry.1.toList, escape entry.2.toList] := by
    rw [entryText, pieces_append (colon_notMem_escape _), pieces_of_notMem (colon_notMem_escape _)]
  rw [readPair, split]
  simp [readPart_escape]

theorem readPairs_entryTexts (entries : List (String × String)) :
    readPairs (entries.map entryText) = .ok entries := by
  induction entries with
  | nil => rfl
  | cons entry rest ih =>
      rw [List.map_cons, readPairs, readPair_entryText, ih]
      rfl

theorem comma_notMem_entryText (entry : String × String) : ',' ∉ entryText entry := by
  rw [entryText, List.mem_append, List.mem_cons]
  rintro (inKey | isColon | inValue)
  · exact comma_notMem_escape _ inKey
  · cases isColon
  · exact comma_notMem_escape _ inValue

theorem pieces_entriesText (entry : String × String) (rest : List (String × String)) :
    pieces ',' (entriesText (entry :: rest)) = (entry :: rest).map entryText := by
  induction rest generalizing entry with
  | nil => exact pieces_of_notMem (comma_notMem_entryText entry)
  | cons next rest ih =>
      rw [entriesText, pieces_append (comma_notMem_entryText entry), ih]
      rfl

theorem entriesText_ne_nil (entry : String × String) (rest : List (String × String)) :
    entriesText (entry :: rest) ≠ [] := by
  cases rest with
  | nil => simp [entriesText, entryText]
  | cons next rest => simp [entriesText]

theorem parse_text_of_entries {params : Params} {entry : String × String}
    {rest : List (String × String)} (entries : params.entries = entry :: rest) :
    parse params.text = .ok params := by
  have written : params.text.toList = entriesText (entry :: rest) := by
    rw [text, entries, String.toList_ofList]
  have nonempty : params.text.isEmpty = false := by
    rw [Bool.eq_false_iff, ne_eq, String.isEmpty_iff]
    intro blank
    rw [blank] at written
    exact entriesText_ne_nil entry rest written.symm
  have restored : ofList (entry :: rest) = params := by
    apply eq_of_entries_eq
    rw [entries]
    exact sortEntries_of_keysIncrease (entries ▸ params.sorted)
  rw [parse, nonempty, written, pieces_entriesText, readPairs_entryTexts, ← restored]
  rfl

theorem parse_entriesText {entries : List (String × String)} (sorted : KeysIncrease entries) :
    parse (String.ofList (entriesText entries)) = .ok ⟨entries, sorted⟩ := by
  cases entries with
  | nil => rfl
  | cons entry rest =>
      exact parse_text_of_entries (Eq.refl (Params.mk (entry :: rest) sorted).entries)

/-- The text form of a set is read as the set itself, whatever its keys and values. -/
theorem parse_text (params : Params) : parse params.text = .ok params := by
  cases entries : params.entries with
  | nil =>
      have blank : params = empty := eq_of_entries_eq entries
      rw [blank]
      rfl
  | cons entry rest => exact parse_text_of_entries entries

end Params

end PadCapture
