/-
# Menu.Accelerator — `ParseMenuItem` undoes accelerator escaping

A label with accelerators is written by escaping: every `&` of the text is doubled, and one
`&` is put before each character to underline (`escape t P`, for the positions `P`). This
module states that escaping in its own words and shows `ParseMenuItem` is its inverse:

* `parseMenuItemLoop_escapeFrom`: the scan of an escaped text, followed by anything, reaches
  the text with one underline per marked position, in order, and goes on from there;
* `escape_cover`: every string is an escaped text, possibly followed by one `&` that the
  scan drops;
* `accelerator_round_trip`: both readings of an escaped text give back the text and its
  underlines, the decomposition of every string is unique, and so every entity
  `ParseMenuItem` returns is a one-unit underline inside the text, at increasing offsets.
-/
import Mathlib.Data.List.Sort
import Kotatogram.Menu.Text

namespace Kotatogram.Ui

set_option autoImplicit false

/-- The accelerator escaping of `t` from its position `i` on: every `&` doubled, and one
`&` before each position in `P`. -/
def escapeFrom (P : List Nat) : Nat → QString → QString
  | _, [] => []
  | i, ch :: rest =>
      (if i ∈ P then [ampersand] else []) ++
        (if ch = ampersand then [ampersand, ampersand] else [ch]) ++ escapeFrom P (i + 1) rest

/-- `escape(t, P)`. -/
def escape (t : QString) (P : List Nat) : QString := escapeFrom P 0 t

/-- `[Underline(p, 1) for p in P]`. -/
def underlines (P : List Nat) : List EntityInText := P.map fun p : Nat => ⟨.underline, p, 1⟩

/-- `P` marks accelerators of `t`: strictly increasing positions of `t` whose characters
are not `&`. -/
def Accelerators (t : QString) (P : List Nat) : Prop :=
  P.Pairwise (· < ·) ∧ ∀ p ∈ P, ∃ ch, t[p]? = some ch ∧ ch ≠ ampersand

/-! ## The scan, one escaped character at a time -/

theorem parseMenuItemLoop_marked (r : TextWithEntities) {ch : QChar} (ne : ch ≠ ampersand)
    (rest : QString) :
    parseMenuItemLoop false r (ampersand :: ch :: rest) =
      parseMenuItemLoop false (r.underlineNext.push ch) rest := by
  simp [parseMenuItemLoop, ne]

theorem parseMenuItemLoop_doubled (r : TextWithEntities) (rest : QString) :
    parseMenuItemLoop false r (ampersand :: ampersand :: rest) =
      parseMenuItemLoop false (r.push ampersand) rest := by
  simp [parseMenuItemLoop]

theorem parseMenuItemLoop_plain (r : TextWithEntities) {ch : QChar} (ne : ch ≠ ampersand)
    (rest : QString) :
    parseMenuItemLoop false r (ch :: rest) = parseMenuItemLoop false (r.push ch) rest := by
  simp [parseMenuItemLoop, ne]

/-- A lone `&` at the end is dropped. -/
theorem parseMenuItemLoop_trailing (r : TextWithEntities) :
    parseMenuItemLoop false r [ampersand] = r := rfl

/-- The scan of `escape t P` from position `i`, followed by `rest`: the text grows by `t`
and the entities by the underlines of the marked positions among `i, i + 1, …`. -/
theorem parseMenuItemLoop_escapeFrom (P : List Nat) :
    ∀ (t : QString) (i : Nat) (r : TextWithEntities) (rest : QString), r.text.length = i →
      (∀ j ch, t[j]? = some ch → i + j ∈ P → ch ≠ ampersand) →
      parseMenuItemLoop false r (escapeFrom P i t ++ rest) =
        parseMenuItemLoop false
          ⟨r.text ++ t, r.entities ++ underlines ((List.range' i t.length).filter (· ∈ P))⟩ rest
  | [], i, r, rest, _, _ => by simp [escapeFrom, underlines]
  | ch :: t, i, r, rest, at_i, marked => by
      have later : ∀ r' : TextWithEntities, r'.text = r.text ++ [ch] →
          parseMenuItemLoop false r' (escapeFrom P (i + 1) t ++ rest) =
            parseMenuItemLoop false ⟨r.text ++ ch :: t, r'.entities ++
              underlines ((List.range' (i + 1) t.length).filter (· ∈ P))⟩ rest := by
        intro r' text
        rw [parseMenuItemLoop_escapeFrom P t (i + 1) r' rest (by simp [text, at_i])
          fun j c found mem => marked (j + 1) c (by simpa using found)
            (by rw [show i + (j + 1) = i + 1 + j by omega]; exact mem)]
        simp [text]
      simp only [escapeFrom, List.length_cons, List.range'_succ, List.filter_cons,
        List.append_assoc]
      by_cases mark : i ∈ P
      · have ne : ch ≠ ampersand := marked 0 ch (by simp) (by simpa using mark)
        simp only [mark, if_true, ne, if_false, List.singleton_append, List.cons_append,
          List.nil_append, parseMenuItemLoop_marked r ne]
        rw [later _ (by simp)]
        simp [underlines, mark, at_i]
      · simp only [mark, if_false, List.nil_append]
        by_cases amp : ch = ampersand
        · subst amp
          simp only [if_true, List.cons_append, List.nil_append, parseMenuItemLoop_doubled]
          rw [later _ (by simp)]
          simp [mark]
        · simp only [amp, if_false, List.singleton_append, parseMenuItemLoop_plain r amp]
          rw [later _ (by simp)]
          simp [mark]

/-- The marked positions among `0, …, |t| - 1` are `P` itself. -/
theorem filter_range_accelerators {t : QString} {P : List Nat} (acc : Accelerators t P) :
    (List.range' 0 t.length).filter (· ∈ P) = P := by
  have within : ∀ p ∈ P, p < t.length := fun p mem => by
    obtain ⟨ch, found, -⟩ := acc.2 p mem
    exact (List.getElem?_eq_some_iff.mp found).1
  have sorted : ((List.range' 0 t.length).filter (· ∈ P)).Sorted (· < ·) :=
    (List.pairwise_lt_range' 0 t.length).filter _
  refine List.eq_of_perm_of_sorted ?_ sorted acc.1
  refine (List.perm_ext_iff_of_nodup sorted.nodup (List.Sorted.nodup acc.1)).mpr fun p => ?_
  simp only [List.mem_filter, List.mem_range'_1, decide_eq_true_eq]
  constructor
  · exact fun h => h.2
  · exact fun mem => ⟨⟨Nat.zero_le p, by simpa using within p mem⟩, mem⟩

/-- `ParseMenuItem` of an escaped text followed by `rest` reads the text and its
underlines, then goes on with `rest`. -/
theorem parseMenuItem_escape_append {t : QString} {P : List Nat} (acc : Accelerators t P)
    (rest : QString) :
    parseMenuItemLoop false {} (escape t P ++ rest) =
      parseMenuItemLoop false ⟨t, underlines P⟩ rest := by
  have marked : ∀ j ch, t[j]? = some ch → 0 + j ∈ P → ch ≠ ampersand := by
    intro j ch found mem
    obtain ⟨ch', found', ne⟩ := acc.2 j (by simpa using mem)
    rw [found] at found'
    exact Option.some.inj found' ▸ ne
  rw [escape, parseMenuItemLoop_escapeFrom P t 0 {} rest rfl marked, filter_range_accelerators acc]
  rfl

/-! ## Every string is an escaped text -/

theorem escapeFrom_congr {P Q : List Nat} :
    ∀ (t : QString) (i : Nat), (∀ j, i ≤ j → (j ∈ P ↔ j ∈ Q)) → escapeFrom P i t = escapeFrom Q i t
  | [], _, _ => rfl
  | ch :: t, i, same => by
      simp only [escapeFrom, same i (Nat.le_refl i),
        escapeFrom_congr t (i + 1) fun j le => same j (by omega)]

theorem escapeFrom_shift (P : List Nat) :
    ∀ (t : QString) (i : Nat), escapeFrom (P.map (· + 1)) (i + 1) t = escapeFrom P i t
  | [], _ => rfl
  | ch :: t, i => by
      simp only [escapeFrom, List.mem_map, Nat.add_right_cancel_iff, exists_eq_right,
        escapeFrom_shift P t (i + 1)]

/-- Escaping a text one character longer: the character, doubled if it is `&`, or marked. -/
theorem escape_cons (ch : QChar) (t : QString) (P : List Nat) :
    escape (ch :: t) (P.map (· + 1)) =
        (if ch = ampersand then [ampersand, ampersand] else [ch]) ++ escape t P ∧
      escape (ch :: t) (0 :: P.map (· + 1)) =
        ampersand :: (if ch = ampersand then [ampersand, ampersand] else [ch]) ++ escape t P := by
  have unmarked : (0 : Nat) ∉ P.map (· + 1) := by simp
  have rest : escapeFrom (0 :: P.map (· + 1)) 1 t = escapeFrom P 0 t :=
    (escapeFrom_congr t 1 fun j le => by simp; omega).trans (escapeFrom_shift P t 0)
  simp [escape, escapeFrom, unmarked, rest, escapeFrom_shift P t 0]

theorem Accelerators.cons {t : QString} {P : List Nat} (acc : Accelerators t P) (ch : QChar) :
    Accelerators (ch :: t) (P.map (· + 1)) :=
  ⟨List.pairwise_map.mpr (acc.1.imp fun lt => by omega), by simpa using acc.2⟩

theorem Accelerators.mark {t : QString} {P : List Nat} (acc : Accelerators t P) {ch : QChar}
    (ne : ch ≠ ampersand) : Accelerators (ch :: t) (0 :: P.map (· + 1)) :=
  ⟨List.pairwise_cons.mpr ⟨by simp, (acc.cons ch).1⟩,
    List.forall_mem_cons.mpr ⟨⟨ch, by simp, ne⟩, (acc.cons ch).2⟩⟩

/-- Every string is `escape t P`, or `escape t P` and one `&`, for accelerators `P` of a
text `t`. -/
theorem escape_cover : ∀ s : QString, ∃ t P, Accelerators t P ∧
    (s = escape t P ∨ s = escape t P ++ [ampersand])
  | [] => ⟨[], [], ⟨.nil, nofun⟩, .inl rfl⟩
  | [ch] => by
      by_cases amp : ch = ampersand
      · exact ⟨[], [], ⟨.nil, nofun⟩, .inr (by rw [amp]; rfl)⟩
      · refine ⟨[ch], [], ⟨.nil, nofun⟩, .inl ?_⟩
        simpa [amp] using ((escape_cons ch [] []).1).symm
  | ch :: d :: rest => by
      by_cases amp : ch = ampersand
      · subst amp
        obtain ⟨t, P, acc, eq⟩ := escape_cover rest
        by_cases amp' : d = ampersand
        · subst amp'
          refine ⟨ampersand :: t, P.map (· + 1), acc.cons _, ?_⟩
          rw [(escape_cons ampersand t P).1]
          rcases eq with rfl | rfl <;> simp
        · refine ⟨d :: t, 0 :: P.map (· + 1), acc.mark amp', ?_⟩
          rw [(escape_cons d t P).2]
          rcases eq with rfl | rfl <;> simp [amp']
      · obtain ⟨t, P, acc, eq⟩ := escape_cover (d :: rest)
        refine ⟨ch :: t, P.map (· + 1), acc.cons ch, ?_⟩
        rw [(escape_cons ch t P).1]
        rcases eq with eq | eq <;> simp [amp, eq]

/-- **Accelerators round trip.** `ParseMenuItem` of an escaped text, with or without one
more `&`, is the text with an underline at each marked position, in order; every string is
such an escaped text for exactly one text and set of marks; so every entity it returns is
a one-unit underline inside the text, at strictly increasing offsets. -/
theorem accelerator_round_trip :
    (∀ (t : QString) (P : List Nat), Accelerators t P →
      parseMenuItem (escape t P) = ⟨t, underlines P⟩ ∧
        parseMenuItem (escape t P ++ [ampersand]) = ⟨t, underlines P⟩) ∧
    (∀ s : QString, ∃! tP : QString × List Nat, Accelerators tP.1 tP.2 ∧
      (s = escape tP.1 tP.2 ∨ s = escape tP.1 tP.2 ++ [ampersand])) ∧
    (∀ s : QString,
      (∀ e ∈ (parseMenuItem s).entities, e.type = .underline ∧ e.length = 1 ∧ 0 ≤ e.offset ∧
        e.offset < (parseMenuItem s).text.length) ∧
      ((parseMenuItem s).entities.map (·.offset)).Pairwise (· < ·)) := by
  have parsed : ∀ t P, Accelerators t P →
      parseMenuItem (escape t P) = ⟨t, underlines P⟩ ∧
        parseMenuItem (escape t P ++ [ampersand]) = ⟨t, underlines P⟩ := fun t P acc =>
    ⟨by simpa using parseMenuItem_escape_append acc [],
      (parseMenuItem_escape_append acc [ampersand]).trans (parseMenuItemLoop_trailing _)⟩
  have reads : ∀ s t P, Accelerators t P → (s = escape t P ∨ s = escape t P ++ [ampersand]) →
      parseMenuItem s = ⟨t, underlines P⟩ := by
    rintro s t P acc (rfl | rfl)
    exacts [(parsed t P acc).1, (parsed t P acc).2]
  refine ⟨parsed, fun s => ?_, fun s => ?_⟩
  · obtain ⟨t, P, acc, eq⟩ := escape_cover s
    refine ⟨(t, P), ⟨acc, eq⟩, fun ⟨t', P'⟩ ⟨acc', eq'⟩ => ?_⟩
    have same := (reads s t' P' acc' eq').symm.trans (reads s t P acc eq)
    simp only [TextWithEntities.mk.injEq, underlines] at same
    obtain ⟨rfl, marks⟩ := same
    have : P' = P := List.map_injective_iff.mpr (fun p q h => by simp at h; omega) marks
    rw [this]
  · obtain ⟨t, P, acc, eq⟩ := escape_cover s
    rw [reads s t P acc eq]
    refine ⟨fun e mem => ?_, ?_⟩
    · obtain ⟨p, marked, rfl⟩ := List.mem_map.mp mem
      obtain ⟨ch, found, -⟩ := acc.2 p marked
      have := (List.getElem?_eq_some_iff.mp found).1
      exact ⟨rfl, rfl, Int.ofNat_nonneg p, by simpa using this⟩
    · simpa [underlines, List.pairwise_map] using acc.1

theorem accelerator_round_trip_open :
    Accelerators [79, 112, 101, 110] [0] ∧
      parseMenuItem [ampersand, 79, 112, 101, 110] = ⟨[79, 112, 101, 110], underlines [0]⟩ :=
  ⟨⟨by decide, by decide⟩, (accelerator_round_trip.1 [79, 112, 101, 110] [0] ⟨by decide, by decide⟩).1⟩

end Kotatogram.Ui
