import PadCapture.Proofs.Params.Lookup
import PadCapture.Proofs.Params.RoundTrip
import Mathlib.Data.List.Basic

/-!
# The grammar of the text form

A text is cut into pieces at its commas and a piece into key and value at its only colon;
a `$` takes a code after it.  The grammar says so by what parts join up to and by rules
for codes, without the reader.  The reader accepts just the texts of the grammar, keeps
for every key the last value written for it, and reports the first fault of the first
piece that has one.
-/

namespace PadCapture.Params

section Cutting

variable {separator : Char} {text : List Char} {parts : List (List Char)}

/-- The parts of a text between its separators. -/
structure Cut (separator : Char) (text : List Char) (parts : List (List Char)) : Prop where
  joined : [separator].intercalate parts = text
  nonempty : parts ≠ []
  apart : ∀ part ∈ parts, separator ∉ part

theorem pieces_eq_splitOn (separator : Char) (text : List Char) :
    pieces separator text = text.splitOn separator := by
  induction text with
  | nil => rfl
  | cons c rest ih =>
      obtain ⟨first, others, split⟩ :=
        List.exists_cons_of_ne_nil (List.splitOn_ne_nil separator rest)
      rw [pieces, List.splitOn_cons_eq_if_modifyHead, ih, split]
      by_cases same : c = separator <;> simp [same]

theorem notMem_of_mem_pieces {part : List Char} (member : part ∈ pieces separator text) :
    separator ∉ part := by
  induction text generalizing part with
  | nil =>
      rw [List.mem_singleton.mp member]
      exact List.not_mem_nil
  | cons c rest ih =>
      rw [pieces] at member
      split at member
      · rcases List.mem_cons.mp member with rfl | later
        · exact List.not_mem_nil
        · exact ih later
      · rename_i different
        split at member
        · rw [List.mem_singleton.mp member, List.mem_singleton]
          exact fun same => different same.symm
        · rename_i first others split
          rcases List.mem_cons.mp member with rfl | later
          · have absent := ih (split ▸ List.mem_cons_self)
            rw [List.mem_cons, not_or]
            exact ⟨fun same => different same.symm, absent⟩
          · exact ih (split ▸ List.mem_cons_of_mem _ later)

theorem cut_pieces (separator : Char) (text : List Char) :
    Cut separator text (pieces separator text) where
  joined := by rw [pieces_eq_splitOn, List.intercalate_splitOn]
  nonempty := by rw [pieces_eq_splitOn]; exact List.splitOn_ne_nil separator text
  apart := fun _ member => notMem_of_mem_pieces member

/-- A text has one cut only. -/
theorem Cut.eq_pieces (cut : Cut separator text parts) : parts = pieces separator text := by
  rw [pieces_eq_splitOn, ← cut.joined, List.splitOn_intercalate separator cut.apart cut.nonempty]

theorem length_pieces (separator : Char) (text : List Char) :
    (pieces separator text).length = text.count separator + 1 := by
  induction text with
  | nil => rfl
  | cons c rest ih =>
      rw [pieces]
      split
      · rename_i same
        rw [List.length_cons, ih, same, List.count_cons_self]
      · rename_i different
        rw [List.count_cons_of_ne different, ← ih]
        split
        · rename_i blank
          rw [blank] at ih
          simp at ih
        · rename_i split
          rw [split]
          rfl

end Cutting

section Decoding

/-- Every `$` of the text, read from left to right, takes one of the codes with it. -/
inductive Coded : List Char → Prop where
  | nil : Coded []
  | plain {c : Char} {rest : List Char} (notEscape : c ≠ '$') (coded : Coded rest) :
      Coded (c :: rest)
  | code {code : Char} {rest : List Char} (known : code ∈ ['0', '1', '2'])
      (coded : Coded rest) : Coded ('$' :: code :: rest)

/-- The codes and the characters that they stand for. -/
def codes : List (Char × Char) := [('0', ':'), ('1', ','), ('2', '$')]

/-- What a written part stands for. -/
inductive Decodes : List Char → List Char → Prop where
  | nil : Decodes [] []
  | plain {c : Char} {rest text : List Char} (notEscape : c ≠ '$') (decodes : Decodes rest text) :
      Decodes (c :: rest) (c :: text)
  | code {code decoded : Char} {rest text : List Char} (known : (code, decoded) ∈ codes)
      (decodes : Decodes rest text) : Decodes ('$' :: code :: rest) (decoded :: text)

variable {written text key value : List Char}

theorem codeChar?_eq_some_iff {code decoded : Char} :
    codeChar? code = some decoded ↔ (code, decoded) ∈ codes := by
  simp only [codes, List.mem_cons, Prod.mk.injEq, List.not_mem_nil, or_false]
  constructor
  · intro known
    unfold codeChar? at known
    split at known
    · rename_i zero
      exact .inl ⟨zero, (Option.some.inj known).symm⟩
    · split at known
      · rename_i one
        exact .inr (.inl ⟨one, (Option.some.inj known).symm⟩)
      · split at known
        · rename_i two
          exact .inr (.inr ⟨two, (Option.some.inj known).symm⟩)
        · cases known
  · rintro (⟨rfl, rfl⟩ | ⟨rfl, rfl⟩ | ⟨rfl, rfl⟩) <;> rfl

theorem decodes_of_unescape (decoded : unescape written = some text) : Decodes written text := by
  fun_induction unescape written generalizing text with
  | case1 =>
      cases decoded
      exact .nil
  | case2 => cases decoded
  | case3 c notEscape =>
      cases decoded
      exact .plain notEscape .nil
  | case4 next rest decodedChar others unescaped known ih =>
      cases decoded
      exact .code (codeChar?_eq_some_iff.mp known) (ih unescaped)
  | case5 => cases decoded
  | case6 c next rest notEscape ih =>
      obtain ⟨others, unescaped, rfl⟩ := Option.map_eq_some_iff.mp decoded
      exact .plain notEscape (ih unescaped)

/-- Decoding finds just what a written part stands for. -/
theorem unescape_eq_some_iff : unescape written = some text ↔ Decodes written text := by
  constructor
  · exact decodes_of_unescape
  · intro decodes
    induction decodes with
    | nil => rfl
    | plain notEscape _ ih =>
        rw [unescape_cons_of_ne notEscape, ih]
        rfl
    | code known _ ih =>
        rw [unescape_code (codeChar?_eq_some_iff.mpr known), ih]
        rfl

theorem coded_iff : Coded written ↔ ∃ text, Decodes written text := by
  constructor
  · intro coded
    induction coded with
    | nil => exact ⟨[], .nil⟩
    | plain notEscape _ ih =>
        obtain ⟨text, decodes⟩ := ih
        exact ⟨_, .plain notEscape decodes⟩
    | code known _ ih =>
        obtain ⟨text, decodes⟩ := ih
        simp only [List.mem_cons, List.not_mem_nil, or_false] at known
        rcases known with rfl | rfl | rfl
        · exact ⟨':' :: text, .code (by decide) decodes⟩
        · exact ⟨',' :: text, .code (by decide) decodes⟩
        · exact ⟨'$' :: text, .code (by decide) decodes⟩
  · rintro ⟨text, decodes⟩
    induction decodes with
    | nil => exact .nil
    | plain notEscape _ ih => exact .plain notEscape ih
    | code known _ ih =>
        refine .code ?_ ih
        simp only [codes, List.mem_cons, Prod.mk.injEq, List.not_mem_nil, or_false] at known
        rcases known with ⟨rfl, -⟩ | ⟨rfl, -⟩ | ⟨rfl, -⟩ <;> simp

/-- No `$` takes the colon between key and value with it. -/
theorem coded_append_colon_iff :
    Coded (key ++ ':' :: value) ↔ Coded key ∧ Coded value := by
  constructor
  · intro coded
    generalize joined : key ++ ':' :: value = piece at coded
    induction coded generalizing key with
    | nil => simp at joined
    | plain notEscape coded ih =>
        cases key with
        | nil =>
            obtain ⟨-, rfl⟩ := List.cons.inj joined
            exact ⟨.nil, coded⟩
        | cons c key =>
            obtain ⟨rfl, tail⟩ := List.cons.inj joined
            obtain ⟨keyCoded, valueCoded⟩ := ih tail
            exact ⟨.plain notEscape keyCoded, valueCoded⟩
    | code known coded ih =>
        rcases key with _ | ⟨first, _ | ⟨second, key⟩⟩
        · simp at joined
        · -- The colon is not among the codes.
          simp only [List.cons_append, List.nil_append, List.cons.injEq] at joined
          obtain ⟨-, rfl, -⟩ := joined
          simp at known
        · simp only [List.cons_append, List.cons.injEq] at joined
          obtain ⟨rfl, rfl, tail⟩ := joined
          obtain ⟨keyCoded, valueCoded⟩ := ih tail
          exact ⟨.code known keyCoded, valueCoded⟩
  · rintro ⟨keyCoded, valueCoded⟩
    induction keyCoded with
    | nil => exact .plain (by decide) valueCoded
    | plain notEscape _ ih => exact .plain notEscape ih
    | code known _ ih => exact .code known ih

end Decoding

section Pairs

variable {piece key value : List Char}

/-- The piece is a key and a value with the only colon between them. -/
structure Halves (piece key value : List Char) : Prop where
  joined : piece = key ++ ':' :: value
  key_apart : ':' ∉ key
  value_apart : ':' ∉ value

/-- The piece has one colon and no `$` without a code. -/
structure WellFormed (piece : List Char) : Prop where
  colon : piece.count ':' = 1
  coded : Coded piece

/-- The key of the piece stands for `name`. -/
def WritesKey (piece : List Char) (name : String) : Prop :=
  ∃ key value, Halves piece key value ∧ Decodes key name.toList

/-- The value of the piece stands for `content`. -/
def WritesValue (piece : List Char) (content : String) : Prop :=
  ∃ key value, Halves piece key value ∧ Decodes value content.toList

/-- What is wrong with a piece.  Its colons come before its codes, its key before its value. -/
inductive Faulty (piece : List Char) : Fault → Prop where
  | colons (wrong : piece.count ':' ≠ 1) : Faulty piece (.malformedPair (String.ofList piece))
  | key (key value : List Char) (halves : Halves piece key value) (wrong : ¬ Coded key) :
      Faulty piece (.invalidEscape (String.ofList key))
  | value (key value : List Char) (halves : Halves piece key value) (coded : Coded key)
      (wrong : ¬ Coded value) : Faulty piece (.invalidEscape (String.ofList value))

theorem Halves.pieces_eq (halves : Halves piece key value) : pieces ':' piece = [key, value] := by
  rw [halves.joined, pieces_append halves.key_apart, pieces_of_notMem halves.value_apart]

/-- A piece has at most one pair of halves. -/
theorem Halves.unique {otherKey otherValue : List Char} (halves : Halves piece key value)
    (others : Halves piece otherKey otherValue) : otherKey = key ∧ otherValue = value := by
  have same := others.pieces_eq.symm.trans halves.pieces_eq
  simpa using same

theorem Decodes.unique {written : List Char} {first second : List Char}
    (decodes : Decodes written first) (others : Decodes written second) : first = second := by
  rw [← unescape_eq_some_iff] at decodes others
  exact Option.some.inj (decodes.symm.trans others)

theorem WritesKey.unique {first second : String} (writes : WritesKey piece first)
    (others : WritesKey piece second) : first = second := by
  obtain ⟨key, value, halves, decodes⟩ := writes
  obtain ⟨_, _, otherHalves, otherDecodes⟩ := others
  obtain ⟨rfl, rfl⟩ := halves.unique otherHalves
  exact String.toList_inj.mp (decodes.unique otherDecodes)

/-- A piece with one colon has two halves. -/
theorem count_colon_eq_one_iff :
    piece.count ':' = 1 ↔ ∃ key value, Halves piece key value := by
  have length := length_pieces ':' piece
  constructor
  · intro single
    rw [single] at length
    obtain ⟨key, value, split⟩ := List.length_eq_two.mp length
    have cut := cut_pieces ':' piece
    rw [split] at cut
    refine ⟨key, value, ?_, cut.apart key (by simp), cut.apart value (by simp)⟩
    have joined := cut.joined
    simpa using joined.symm
  · rintro ⟨key, value, halves⟩
    rw [halves.pieces_eq] at length
    simpa using length.symm

theorem readPart_eq_ok_iff {part : List Char} {text : String} :
    readPart part = .ok text ↔ Decodes part text.toList := by
  rw [readPart, ← unescape_eq_some_iff]
  cases unescape part with
  | none => simp
  | some decoded =>
      simp only [Except.ok.injEq, Option.some.injEq]
      constructor
      · rintro rfl
        exact String.toList_ofList.symm
      · rintro rfl
        exact String.ofList_toList

theorem exists_readPart_of_coded {part : List Char} (coded : Coded part) :
    ∃ text, readPart part = .ok text := by
  obtain ⟨decoded, decodes⟩ := coded_iff.mp coded
  refine ⟨String.ofList decoded, readPart_eq_ok_iff.mpr ?_⟩
  rwa [String.toList_ofList]

theorem readPart_of_not_coded {part : List Char} (wrong : ¬ Coded part) :
    readPart part = .error (.invalidEscape (String.ofList part)) := by
  rw [readPart]
  cases unescaped : unescape part with
  | none => rfl
  | some decoded =>
      exact absurd (coded_iff.mpr ⟨decoded, unescape_eq_some_iff.mp unescaped⟩) wrong

theorem readPair_of_count_ne (wrong : piece.count ':' ≠ 1) :
    readPair piece = .error (.malformedPair (String.ofList piece)) := by
  rw [readPair]
  split
  · rename_i key value split
    have length := length_pieces ':' piece
    rw [split] at length
    simp at length
    omega
  · rfl

/-- A piece is read as a pair just when it writes this key and this value. -/
theorem readPair_eq_ok_iff {pair : String × String} :
    readPair piece = .ok pair ↔ WritesKey piece pair.1 ∧ WritesValue piece pair.2 := by
  constructor
  · intro read
    by_cases single : piece.count ':' = 1
    · obtain ⟨key, value, halves⟩ := count_colon_eq_one_iff.mp single
      rw [readPair, halves.pieces_eq] at read
      cases keyRead : readPart key with
      | error fault => simp [keyRead] at read
      | ok name =>
          cases valueRead : readPart value with
          | error fault => simp [keyRead, valueRead] at read
          | ok content =>
              simp only [keyRead, valueRead, Except.ok.injEq] at read
              subst read
              exact ⟨⟨key, value, halves, readPart_eq_ok_iff.mp keyRead⟩,
                ⟨key, value, halves, readPart_eq_ok_iff.mp valueRead⟩⟩
    · rw [readPair_of_count_ne single] at read
      cases read
  · rintro ⟨⟨key, value, halves, keyDecodes⟩, _, _, others, valueDecodes⟩
    obtain ⟨rfl, rfl⟩ := halves.unique others
    rw [readPair, halves.pieces_eq]
    simp [readPart_eq_ok_iff.mpr keyDecodes, readPart_eq_ok_iff.mpr valueDecodes]

/-- The pieces that are read as pairs are the well-formed ones. -/
theorem exists_readPair_iff : (∃ pair, readPair piece = .ok pair) ↔ WellFormed piece := by
  constructor
  · rintro ⟨pair, read⟩
    obtain ⟨⟨key, value, halves, keyDecodes⟩, _, _, others, valueDecodes⟩ :=
      readPair_eq_ok_iff.mp read
    obtain ⟨rfl, rfl⟩ := halves.unique others
    refine ⟨count_colon_eq_one_iff.mpr ⟨_, _, halves⟩, ?_⟩
    rw [halves.joined, coded_append_colon_iff]
    exact ⟨coded_iff.mpr ⟨_, keyDecodes⟩, coded_iff.mpr ⟨_, valueDecodes⟩⟩
  · intro wellFormed
    obtain ⟨key, value, halves⟩ := count_colon_eq_one_iff.mp wellFormed.colon
    have coded := wellFormed.coded
    rw [halves.joined, coded_append_colon_iff] at coded
    obtain ⟨name, keyRead⟩ := exists_readPart_of_coded coded.1
    obtain ⟨content, valueRead⟩ := exists_readPart_of_coded coded.2
    refine ⟨(name, content), readPair_eq_ok_iff.mpr ⟨?_, ?_⟩⟩
    · exact ⟨key, value, halves, readPart_eq_ok_iff.mp keyRead⟩
    · exact ⟨key, value, halves, readPart_eq_ok_iff.mp valueRead⟩

/-- A piece is refused just with what is wrong with it. -/
theorem readPair_eq_error_iff {fault : Fault} :
    readPair piece = .error fault ↔ Faulty piece fault := by
  constructor
  · intro read
    by_cases single : piece.count ':' = 1
    · obtain ⟨key, value, halves⟩ := count_colon_eq_one_iff.mp single
      rw [readPair, halves.pieces_eq] at read
      by_cases keyCoded : Coded key
      · obtain ⟨name, keyRead⟩ := exists_readPart_of_coded keyCoded
        by_cases valueCoded : Coded value
        · obtain ⟨content, valueRead⟩ := exists_readPart_of_coded valueCoded
          simp [keyRead, valueRead] at read
        · simp only [keyRead, readPart_of_not_coded valueCoded, Except.error.injEq] at read
          exact read ▸ .value key value halves keyCoded valueCoded
      · simp only [readPart_of_not_coded keyCoded, Except.error.injEq] at read
        exact read ▸ .key key value halves keyCoded
    · rw [readPair_of_count_ne single] at read
      cases read
      exact .colons single
  · intro faulty
    cases faulty with
    | colons wrong => exact readPair_of_count_ne wrong
    | key key value halves wrong =>
        rw [readPair, halves.pieces_eq]
        simp [readPart_of_not_coded wrong]
    | value key value halves coded wrong =>
        obtain ⟨name, keyRead⟩ := exists_readPart_of_coded coded
        rw [readPair, halves.pieces_eq]
        simp [keyRead, readPart_of_not_coded wrong]

end Pairs

section Texts

variable {parts earlier later : List (List Char)} {piece : List Char} {fault : Fault}

theorem readPairs_cons_of_ok {pair : String × String} (read : readPair piece = .ok pair) :
    readPairs (piece :: later) = (readPairs later).map (pair :: ·) := by
  rw [readPairs, read]

theorem readPairs_cons_of_error (refused : readPair piece = .error fault) :
    readPairs (piece :: later) = .error fault := by
  rw [readPairs, refused]

theorem readPairs_eq_ok_iff {pairs : List (String × String)} :
    readPairs parts = .ok pairs ↔ parts.map readPair = pairs.map .ok := by
  induction parts generalizing pairs with
  | nil => cases pairs <;> simp [readPairs]
  | cons piece rest ih =>
      cases read : readPair piece with
      | error fault => cases pairs <;> simp [readPairs_cons_of_error read, read]
      | ok pair =>
          rw [readPairs_cons_of_ok read]
          cases pairs with
          | nil => cases readPairs rest <;> simp [Except.map]
          | cons first pairs =>
              simp only [List.map_cons, read, List.cons.injEq, Except.ok.injEq, ← ih]
              cases readPairs rest <;> simp [Except.map]

theorem readPairs_of_faulty (before : ∀ other ∈ earlier, ∃ pair, readPair other = .ok pair)
    (refused : readPair piece = .error fault) :
    readPairs (earlier ++ piece :: later) = .error fault := by
  induction earlier with
  | nil => exact readPairs_cons_of_error refused
  | cons first earlier ih =>
      obtain ⟨pair, read⟩ := before first List.mem_cons_self
      rw [List.cons_append, readPairs_cons_of_ok read,
        ih fun other member => before other (List.mem_cons_of_mem _ member)]
      rfl

theorem exists_faulty_of_readPairs (refused : readPairs parts = .error fault) :
    ∃ earlier piece later, parts = earlier ++ piece :: later ∧
      (∀ other ∈ earlier, ∃ pair, readPair other = .ok pair) ∧ readPair piece = .error fault := by
  induction parts with
  | nil => cases refused
  | cons piece rest ih =>
      cases read : readPair piece with
      | error found =>
          rw [readPairs_cons_of_error read] at refused
          cases refused
          exact ⟨[], piece, rest, rfl, by simp, read⟩
      | ok pair =>
          rw [readPairs_cons_of_ok read] at refused
          have restRefused : readPairs rest = .error fault := by
            cases others : readPairs rest with
            | error found => simpa [others, Except.map] using refused
            | ok pairs => simp [others, Except.map] at refused
          obtain ⟨earlier, first, later, split, before, wrong⟩ := ih restRefused
          refine ⟨piece :: earlier, first, later, by rw [split]; rfl, ?_, wrong⟩
          intro other member
          rcases List.mem_cons.mp member with rfl | inEarlier
          · exact ⟨pair, read⟩
          · exact before other inEarlier

/-- Reading stops at the first piece that has a fault. -/
theorem readPairs_eq_error_iff :
    readPairs parts = .error fault ↔
      ∃ earlier piece later, parts = earlier ++ piece :: later ∧
        (∀ other ∈ earlier, WellFormed other) ∧ Faulty piece fault := by
  simp only [← exists_readPair_iff, ← readPair_eq_error_iff]
  constructor
  · exact exists_faulty_of_readPairs
  · rintro ⟨earlier, piece, later, rfl, before, refused⟩
    exact readPairs_of_faulty before refused

theorem exists_readPairs_iff :
    (∃ pairs, readPairs parts = .ok pairs) ↔ ∀ piece ∈ parts, WellFormed piece := by
  simp only [readPairs_eq_ok_iff, ← exists_readPair_iff]
  constructor
  · rintro ⟨pairs, read⟩ piece member
    have inPairs : readPair piece ∈ pairs.map .ok := read ▸ List.mem_map_of_mem member
    obtain ⟨pair, -, same⟩ := List.mem_map.mp inPairs
    exact ⟨pair, same.symm⟩
  · intro wellFormed
    induction parts with
    | nil => exact ⟨[], rfl⟩
    | cons piece rest ih =>
        obtain ⟨pair, read⟩ := wellFormed piece List.mem_cons_self
        obtain ⟨pairs, others⟩ := ih fun other member =>
          wellFormed other (List.mem_cons_of_mem _ member)
        exact ⟨pair :: pairs, by rw [List.map_cons, List.map_cons, read, others]⟩

/-- The value kept for a key is the one written last. -/
theorem get?_ofList_of_readPairs {pairs : List (String × String)}
    (read : readPairs parts = .ok pairs) (key value : String) :
    (ofList pairs).get? key = some value ↔
      ∃ earlier piece later, parts = earlier ++ piece :: later ∧ WritesKey piece key ∧
        WritesValue piece value ∧ ∀ other ∈ later, ¬ WritesKey other key := by
  rw [readPairs_eq_ok_iff] at read
  rw [get?_ofList_eq_some_iff]
  constructor
  · rintro ⟨before, after, rfl, others⟩
    rw [List.map_append, List.map_cons] at read
    obtain ⟨earlier, rest, rfl, -, restRead⟩ := List.map_eq_append_iff.mp read
    obtain ⟨piece, later, rfl, pieceRead, laterRead⟩ := List.map_eq_cons_iff.mp restRead
    have writes := readPair_eq_ok_iff.mp pieceRead
    refine ⟨earlier, piece, later, rfl, writes.1, writes.2, ?_⟩
    intro other member writesKey
    have inAfter : readPair other ∈ after.map .ok := laterRead ▸ List.mem_map_of_mem member
    obtain ⟨pair, pairMember, same⟩ := List.mem_map.mp inAfter
    apply others pair pairMember
    exact ((readPair_eq_ok_iff.mp same.symm).1.unique writesKey)
  · rintro ⟨earlier, piece, later, rfl, writesKey, writesValue, others⟩
    have pieceRead : readPair piece = .ok (key, value) :=
      readPair_eq_ok_iff.mpr ⟨writesKey, writesValue⟩
    rw [List.map_append, List.map_cons, pieceRead] at read
    obtain ⟨before, rest, rfl, -, restRead⟩ := List.map_eq_append_iff.mp read.symm
    obtain ⟨pair, after, rfl, samePair, afterRead⟩ := List.map_eq_cons_iff.mp restRead
    cases samePair
    refine ⟨before, after, rfl, ?_⟩
    intro pair member sameKey
    have inLater : Except.ok pair ∈ later.map readPair := afterRead ▸ List.mem_map_of_mem member
    obtain ⟨other, otherMember, otherRead⟩ := List.mem_map.mp inLater
    exact others other otherMember (sameKey ▸ (readPair_eq_ok_iff.mp otherRead).1)

theorem has_ofList_of_readPairs {pairs : List (String × String)}
    (read : readPairs parts = .ok pairs) (key : String) :
    (ofList pairs).has key = true ↔ ∃ piece ∈ parts, WritesKey piece key := by
  rw [readPairs_eq_ok_iff] at read
  have found : (ofList pairs).get? key = pairs.reverse.lookup key := lookup_sortEntries key pairs
  rw [has, found, List.lookup_isSome_iff]
  constructor
  · rintro ⟨pair, member, sameKey⟩
    have inPairs : Except.ok pair ∈ parts.map readPair :=
      read ▸ List.mem_map_of_mem (List.mem_reverse.mp member)
    obtain ⟨piece, pieceMember, pieceRead⟩ := List.mem_map.mp inPairs
    exact ⟨piece, pieceMember, beq_iff_eq.mp sameKey ▸ (readPair_eq_ok_iff.mp pieceRead).1⟩
  · rintro ⟨piece, member, writesKey⟩
    have inParts : readPair piece ∈ pairs.map .ok := read ▸ List.mem_map_of_mem member
    obtain ⟨pair, pairMember, same⟩ := List.mem_map.mp inParts
    exact ⟨pair, List.mem_reverse.mpr pairMember,
      beq_iff_eq.mpr (writesKey.unique (readPair_eq_ok_iff.mp same.symm).1)⟩

end Texts

section Parsing

variable {text : String} {params : Params}

theorem parse_of_ne_empty (nonempty : text ≠ "") :
    parse text = (readPairs (pieces ',' text.toList)).map ofList := by
  rw [parse, if_neg]
  simpa using nonempty

/-- An accepted text is empty, or its pairs are stored one after another. -/
theorem parse_eq_ok_cases (read : parse text = .ok params) :
    (text = "" ∧ params = empty) ∨
      ∃ pairs, readPairs (pieces ',' text.toList) = .ok pairs ∧ params = ofList pairs := by
  by_cases blank : text = ""
  · subst blank
    cases read
    exact .inl ⟨rfl, rfl⟩
  · rw [parse_of_ne_empty blank] at read
    cases pairsRead : readPairs (pieces ',' text.toList) with
    | error fault =>
        rw [pairsRead] at read
        cases read
    | ok pairs =>
        rw [pairsRead] at read
        cases read
        exact .inr ⟨pairs, rfl, rfl⟩

/-- The only piece of the empty text writes no key. -/
theorem not_writesKey_of_empty {piece : List Char} {key : String}
    (member : piece ∈ pieces ',' "".toList) : ¬ WritesKey piece key := by
  have blank : piece = [] := by simpa [pieces] using member
  rintro ⟨_, _, halves, -⟩
  have joined := halves.joined
  rw [blank] at joined
  simp at joined

theorem exists_parse_iff :
    (∃ params, parse text = .ok params) ↔
      text = "" ∨ ∀ piece ∈ pieces ',' text.toList, WellFormed piece := by
  rw [← exists_readPairs_iff]
  constructor
  · rintro ⟨params, read⟩
    exact (parse_eq_ok_cases read).imp And.left fun ⟨pairs, pairsRead, _⟩ => ⟨pairs, pairsRead⟩
  · intro accepted
    by_cases blank : text = ""
    · exact ⟨empty, by rw [blank]; rfl⟩
    · obtain ⟨pairs, pairsRead⟩ := accepted.resolve_left blank
      exact ⟨ofList pairs, by rw [parse_of_ne_empty blank, pairsRead]; rfl⟩

theorem has_iff_of_parse (read : parse text = .ok params) (key : String) :
    params.has key = true ↔ ∃ piece ∈ pieces ',' text.toList, WritesKey piece key := by
  rcases parse_eq_ok_cases read with ⟨rfl, rfl⟩ | ⟨pairs, pairsRead, rfl⟩
  · constructor
    · intro present
      cases present
    · rintro ⟨piece, member, writes⟩
      exact absurd writes (not_writesKey_of_empty member)
  · exact has_ofList_of_readPairs pairsRead key

theorem get?_iff_of_parse (read : parse text = .ok params) (key value : String) :
    params.get? key = some value ↔
      ∃ earlier piece later, pieces ',' text.toList = earlier ++ piece :: later ∧
        WritesKey piece key ∧ WritesValue piece value ∧
        ∀ other ∈ later, ¬ WritesKey other key := by
  rcases parse_eq_ok_cases read with ⟨rfl, rfl⟩ | ⟨pairs, pairsRead, rfl⟩
  · constructor
    · intro present
      cases present
    · rintro ⟨earlier, piece, later, split, writes, -⟩
      exact absurd writes (not_writesKey_of_empty (split ▸ by simp))
  · exact get?_ofList_of_readPairs pairsRead key value

theorem parse_eq_error_iff {fault : Fault} :
    parse text = .error fault ↔
      text ≠ "" ∧ ∃ earlier piece later, pieces ',' text.toList = earlier ++ piece :: later ∧
        (∀ other ∈ earlier, WellFormed other) ∧ Faulty piece fault := by
  rw [← readPairs_eq_error_iff]
  by_cases blank : text = ""
  · have accepted : parse "" = .ok empty := rfl
    simp [blank, accepted]
  · rw [parse_of_ne_empty blank]
    cases readPairs (pieces ',' text.toList) <;> simp [blank, Except.map]

/-- Whether a text is accepted, what is stored and what is reported.  A text is accepted
just when it is empty or all pieces of its only cut at commas are well-formed.  Then a key
is present just when some piece writes it, with the value of the last such piece.
Otherwise the fault is that of the first piece that has one. -/
theorem parse_accepts_grammar (text : String) :
    ∃ parts, Cut ',' text.toList parts ∧
      (∀ others, Cut ',' text.toList others → others = parts) ∧
      ((∃ params, parse text = .ok params) ↔ text = "" ∨ ∀ piece ∈ parts, WellFormed piece) ∧
      (∀ params, parse text = .ok params → ∀ key,
        (params.has key = true ↔ ∃ piece ∈ parts, WritesKey piece key) ∧
        ∀ value, params.get? key = some value ↔
          ∃ earlier piece later, parts = earlier ++ piece :: later ∧ WritesKey piece key ∧
            WritesValue piece value ∧ ∀ other ∈ later, ¬ WritesKey other key) ∧
      ∀ fault, parse text = .error fault ↔
        text ≠ "" ∧ ∃ earlier piece later, parts = earlier ++ piece :: later ∧
          (∀ other ∈ earlier, WellFormed other) ∧ Faulty piece fault := by
  refine ⟨pieces ',' text.toList, cut_pieces ',' text.toList, fun _ cut => cut.eq_pieces,
    exists_parse_iff, ?_, fun _ => parse_eq_error_iff⟩
  intro params read key
  exact ⟨has_iff_of_parse read key, get?_iff_of_parse read key⟩

-- The second piece is reported, although the third one lacks its colon.
example : parse "$21:x,a:$9,b" = .error (.invalidEscape "$9") := by rfl

end Parsing

end PadCapture.Params
