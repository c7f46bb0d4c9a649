import PadCapture.Proofs.Params.Grammar
import Mathlib.Data.List.Forall2

/-!
# The canonical text of a parameter set

An accepted text is what its own pairs are written as, in its own order.  The text form writes
the pairs in increasing order of names.  So a text is the text form of the set that it writes
just when its names increase, and the text form is a normal form: it stands for the same set
as the text it was made from, and two texts have the same one just when they write equal sets.
-/

namespace PadCapture

section Order

/-- The names strictly increase, where names are compared like the lists of their Unicode scalar
values. -/
def ScalarsIncrease (names : List String) : Prop :=
  names.Pairwise fun earlier later =>
    earlier.toList.map Char.toNat < later.toList.map Char.toNat

instance decidableScalarsIncrease (names : List String) : Decidable (ScalarsIncrease names) :=
  inferInstanceAs (Decidable (names.Pairwise _))

theorem map_toNat_lt_iff (first second : List Char) :
    first.map Char.toNat < second.map Char.toNat ↔ first < second := by
  induction first generalizing second with
  | nil => cases second <;> simp
  | cons c first ih =>
      cases second with
      | nil => simp
      | cons d second =>
          have same : c.toNat = d.toNat ↔ c = d := Char.toNat_inj
          have below : c.toNat < d.toNat ↔ c < d := Iff.rfl
          rw [List.map_cons, List.map_cons, List.cons_lt_cons_iff, List.cons_lt_cons_iff, ih, same,
            below]

variable {α : Type} {entries : List (String × α)}

theorem keysIncrease_iff : KeysIncrease entries ↔ ScalarsIncrease (entries.map Prod.fst) := by
  rw [KeysIncrease, ScalarsIncrease, List.pairwise_map]
  simp only [map_toNat_lt_iff, String.lt_iff]

/-- Sorting leaves just those entries alone that are in order. -/
theorem sortEntries_eq_self_iff : sortEntries entries = entries ↔ KeysIncrease entries := by
  constructor
  · intro same
    exact same ▸ keysIncrease_sortEntries entries
  · exact sortEntries_of_keysIncrease

end Order

namespace Params

section Writing

variable {written text piece : List Char} {pair : String × String}
  {pairs : List (String × String)}

/-- Without separators, a part is the only way to write what it stands for. -/
theorem escape_of_decodes (decodes : Decodes written text) (noColon : ':' ∉ written)
    (noComma : ',' ∉ written) : escape text = written := by
  induction decodes with
  | nil => rfl
  | @plain c rest text notEscape _ ih =>
      rw [List.mem_cons, not_or] at noColon noComma
      have itself : escapeChar c = [c] := by
        simp [escapeChar, Ne.symm noColon.1, Ne.symm noComma.1, notEscape]
      rw [escape, List.flatMap_cons, itself]
      exact congrArg (c :: ·) (ih noColon.2 noComma.2)
  | @code code decoded rest text known _ ih =>
      simp only [List.mem_cons, not_or] at noColon noComma
      have itself : escapeChar decoded = ['$', code] := by
        simp only [codes, List.mem_cons, Prod.mk.injEq, List.not_mem_nil, or_false] at known
        rcases known with ⟨rfl, rfl⟩ | ⟨rfl, rfl⟩ | ⟨rfl, rfl⟩ <;> rfl
      rw [escape, List.flatMap_cons, itself]
      exact congrArg ('$' :: code :: ·) (ih noColon.2.2 noComma.2.2)

/-- A pair that was read from a piece is written as this piece. -/
theorem entryText_of_readPair (read : readPair piece = .ok pair) (noComma : ',' ∉ piece) :
    entryText pair = piece := by
  obtain ⟨⟨key, value, halves, keyDecodes⟩, _, _, others, valueDecodes⟩ :=
    readPair_eq_ok_iff.mp read
  obtain ⟨rfl, rfl⟩ := halves.unique others
  have joined := halves.joined
  subst joined
  simp only [List.mem_append, List.mem_cons, not_or] at noComma
  rw [entryText, escape_of_decodes keyDecodes halves.key_apart noComma.1,
    escape_of_decodes valueDecodes halves.value_apart noComma.2.2]

theorem entriesText_eq_intercalate :
    entriesText pairs = [','].intercalate (pairs.map entryText) := by
  induction pairs with
  | nil => rfl
  | cons pair rest ih =>
      cases rest with
      | nil => simp [entriesText]
      | cons next rest => simp [entriesText, ih]

theorem readPairs_iff_forall₂ {parts : List (List Char)} :
    readPairs parts = .ok pairs ↔
      List.Forall₂ (fun piece pair => WritesKey piece pair.1 ∧ WritesValue piece pair.2)
        parts pairs := by
  simp only [readPairs_eq_ok_iff, ← List.forall₂_eq_eq_eq, List.forall₂_map_left_iff,
    List.forall₂_map_right_iff, readPair_eq_ok_iff]

theorem map_entryText_of_readPairs {parts : List (List Char)} (read : readPairs parts = .ok pairs)
    (noComma : ∀ part ∈ parts, ',' ∉ part) : pairs.map entryText = parts := by
  rw [readPairs_iff_forall₂] at read
  induction read with
  | nil => rfl
  | @cons piece pair _ _ writes _ ih =>
      rw [List.forall_mem_cons] at noComma
      rw [List.map_cons, ih noComma.2,
        entryText_of_readPair (readPair_eq_ok_iff.mpr writes) noComma.1]

/-- The pairs of a text are written as this text. -/
theorem entriesText_of_readPairs (read : readPairs (pieces ',' text) = .ok pairs) :
    entriesText pairs = text := by
  have cut := cut_pieces ',' text
  rw [entriesText_eq_intercalate, map_entryText_of_readPairs read cut.apart, cut.joined]

/-- Different pairs are written differently. -/
theorem entriesText_inj {others : List (String × String)} :
    entriesText pairs = entriesText others ↔ pairs = others := by
  constructor
  · intro same
    cases pairs with
    | nil =>
        cases others with
        | nil => rfl
        | cons first rest => exact absurd same.symm (entriesText_ne_nil first rest)
    | cons pair rest =>
        cases others with
        | nil => exact absurd same (entriesText_ne_nil pair rest)
        | cons first others =>
            have pieces_eq := congrArg (pieces ',') same
            rw [pieces_entriesText, pieces_entriesText] at pieces_eq
            have read := congrArg readPairs pieces_eq
            rw [readPairs_entryTexts, readPairs_entryTexts] at read
            exact Except.ok.inj read
  · rintro rfl
    rfl

end Writing

section Names

/-- The names that the pairs of a text write, in their order.  The empty text has no pairs. -/
def WritesNames (text : String) (names : List String) : Prop :=
  if text = "" then names = [] else List.Forall₂ WritesKey (pieces ',' text.toList) names

variable {text : String} {params : Params}

/-- The names of an accepted text, which is the text form of its set just when they increase. -/
theorem exists_names_of_parse (read : parse text = .ok params) :
    ∃ names, WritesNames text names ∧ (params.text = text ↔ ScalarsIncrease names) := by
  by_cases blank : text = ""
  · subst blank
    cases read
    exact ⟨[], by simp [WritesNames], iff_of_true rfl List.Pairwise.nil⟩
  · rw [parse_of_ne_empty blank] at read
    cases pairsRead : readPairs (pieces ',' text.toList) with
    | error fault =>
        rw [pairsRead] at read
        cases read
    | ok pairs =>
        rw [pairsRead] at read
        cases read
        refine ⟨pairs.map Prod.fst, ?_, ?_⟩
        · rw [WritesNames, if_neg blank, List.forall₂_map_right_iff]
          exact (readPairs_iff_forall₂.mp pairsRead).imp fun _ _ writes => writes.1
        · calc (ofList pairs).text = text
              ↔ entriesText (sortEntries pairs) = entriesText pairs := by
                rw [entriesText_of_readPairs pairsRead, ← String.toList_inj, Params.text,
                  String.toList_ofList]
                rfl
            _ ↔ sortEntries pairs = pairs := entriesText_inj
            _ ↔ KeysIncrease pairs := sortEntries_eq_self_iff
            _ ↔ ScalarsIncrease (pairs.map Prod.fst) := keysIncrease_iff

theorem WritesNames.unique {names others : List String} (writes : WritesNames text names)
    (alsoWrites : WritesNames text others) : names = others := by
  unfold WritesNames at writes alsoWrites
  split at writes
  next blank =>
    rw [if_pos blank] at alsoWrites
    rw [writes, alsoWrites]
  next nonempty =>
    rw [if_neg nonempty] at alsoWrites
    generalize pieces ',' text.toList = parts at writes alsoWrites
    induction writes generalizing others with
    | nil =>
        cases alsoWrites
        rfl
    | cons first rest ih =>
        cases alsoWrites with
        | cons otherFirst otherRest => rw [first.unique otherFirst, ih otherRest]

end Names

/-- The text form of a set that was read from a text is this text just when the names of its
pairs strictly increase.  In any case it is read as the same set, so that writing what was read
is a normal form, and two accepted texts have the same normal form just when they write equal
sets. -/
theorem text_eq_iff_of_parse :
    (∀ text params, parse text = .ok params →
      (∃ names, WritesNames text names ∧ (∀ others, WritesNames text others → names = others) ∧
        (params.text = text ↔ ScalarsIncrease names)) ∧
      (parse params.text).map Params.text = .ok params.text) ∧
    ∀ text other params others, parse text = .ok params → parse other = .ok others →
      (params.text = others.text ↔ params = others) := by
  constructor
  · intro text params read
    obtain ⟨names, writes, canonical_iff⟩ := exists_names_of_parse read
    refine ⟨⟨names, writes, fun others => writes.unique, canonical_iff⟩, ?_⟩
    have readBack : parse params.text = .ok params := parse_entriesText params.sorted
    rw [readBack]
    rfl
  · intro text other params others _ _
    constructor
    · intro same
      have readBack : parse params.text = .ok params := parse_entriesText params.sorted
      have otherReadBack : parse others.text = .ok others := parse_entriesText others.sorted
      rw [same, otherReadBack] at readBack
      exact (Except.ok.inj readBack).symm
    · rintro rfl
      rfl

/-- Two orders of the same pairs.  The first one is the text form, as the names `5` and `:`
increase, although what is written for them does not. -/
theorem text_eq_iff_of_parse_in_two_orders :
    ∃ params others, parse "5:x,$0:y" = .ok params ∧ parse "$0:y,5:x" = .ok others ∧
      params.text = "5:x,$0:y" ∧ others.text = "5:x,$0:y" := by
  have first : parse "5:x,$0:y" = .ok (ofList [("5", "x"), (":", "y")]) := by rfl
  have second : parse "$0:y,5:x" = .ok (ofList [(":", "y"), ("5", "x")]) := by rfl
  have five : readPair "5:x".toList = .ok ("5", "x") := by rfl
  have colon : readPair "$0:y".toList = .ok (":", "y") := by rfl
  have writes : WritesNames "5:x,$0:y" ["5", ":"] :=
    .cons (readPair_eq_ok_iff.mp five).1 (.cons (readPair_eq_ok_iff.mp colon).1 .nil)
  obtain ⟨⟨names, -, unique, canonical_iff⟩, -⟩ := text_eq_iff_of_parse.1 _ _ first
  have canonical : (ofList [("5", "x"), (":", "y")]).text = "5:x,$0:y" := by
    rw [canonical_iff, unique _ writes]
    decide
  have same := (text_eq_iff_of_parse.2 _ _ _ _ first second).mpr (by decide)
  exact ⟨_, _, first, second, canonical, same.symm.trans canonical⟩

end Params

end PadCapture
