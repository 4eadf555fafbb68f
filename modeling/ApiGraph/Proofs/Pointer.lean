import ApiGraph.Pointer
import Mathlib.Data.List.Basic

namespace ApiGraph

/-! # References that are written and read back

A slash ends a segment and a tilde begins an escape, so both are escaped in a name. A name is read
back from any reference that is written for it, and a reference is read by its last segment alone. -/

namespace Text

variable {first second replacement separator c : Char} {before segment text rest : List Char}

/-! ## The text after the last separator -/

theorem pieces_append (before text : List Char) :
    pieces separator (before ++ separator :: text) =
      pieces separator before ++ pieces separator text := by
  induction before with
  | nil => simp [pieces]
  | cons c before induction =>
      rw [List.cons_append, pieces, pieces, induction]
      split
      · rfl
      · cases split : pieces separator before with
        | nil => exact absurd split (pieces_ne_nil separator before)
        | cons piece others => rfl

theorem lastPiece_append (before text : List Char) :
    lastPiece separator (before ++ separator :: text) = lastPiece separator text := by
  simp only [lastPiece, pieces_append]
  exact List.getLast_append_of_ne_nil _ (pieces_ne_nil separator text)

theorem lastPiece_of_notMem (absent : separator ∉ text) : lastPiece separator text = text := by
  have single : pieces separator text = [text] := by
    induction text with
    | nil => rfl
    | cons c text induction =>
        rw [List.mem_cons, not_or] at absent
        rw [pieces, if_neg (Ne.symm absent.1), induction absent.2]
  simp only [lastPiece, single, List.getLast_singleton]

/-- A text is what comes before its last separator and what comes after it. -/
theorem exists_lastPiece (member : separator ∈ text) :
    ∃ before, text = before ++ separator :: lastPiece separator text ∧
      separator ∉ lastPiece separator text := by
  induction text with
  | nil => cases member
  | cons c text induction =>
      by_cases later : separator ∈ text
      · rcases induction later with ⟨before, equal, absent⟩
        have same : lastPiece separator (c :: text) = lastPiece separator text := by
          rw [equal, ← List.cons_append, lastPiece_append, lastPiece_append]
        rw [same]
        exact ⟨c :: before, by rw [List.cons_append, ← equal], absent⟩
      · have here : separator = c := (List.mem_cons.mp member).resolve_right later
        subst here
        have last : lastPiece separator (separator :: text) = text :=
          (lastPiece_append [] text).trans (lastPiece_of_notMem later)
        rw [last]
        exact ⟨[], rfl, later⟩

/-- There is one way to split a text at its last separator. -/
theorem append_cons_inj {others : List Char} (absent : separator ∉ text) (also : separator ∉ rest)
    (equal : before ++ separator :: text = others ++ separator :: rest) :
    before = others ∧ text = rest := by
  have last := congrArg (lastPiece separator) equal
  rw [lastPiece_append, lastPiece_append, lastPiece_of_notMem absent, lastPiece_of_notMem also]
    at last
  rw [last] at equal
  exact ⟨List.append_cancel_right equal, last⟩

/-! ## Replacements -/

@[simp] theorem replacePair_pair :
    replacePair first second replacement (first :: second :: text) =
      replacement :: replacePair first second replacement text := by
  rw [replacePair, if_pos ⟨rfl, rfl⟩]

/-- A character stays where no pair begins. -/
theorem replacePair_cons (alone : c = first → text.head? ≠ some second) :
    replacePair first second replacement (c :: text) =
      c :: replacePair first second replacement text := by
  cases text with
  | nil => rfl
  | cons next rest =>
      rw [replacePair, if_neg]
      rintro ⟨equal, same⟩
      exact alone equal (congrArg some same)

/-- What comes first after a replacement either came first before it or has been put there. -/
theorem head?_replacePair (head : (replacePair first second replacement text).head? = some c) :
    text.head? = some c ∨ c = replacement := by
  rcases text with _ | ⟨other, _ | ⟨next, rest⟩⟩
  · cases head
  · exact .inl head
  · rw [replacePair] at head
    split at head
    · exact .inr (Option.some.inj head).symm
    · exact .inl head

end Text

namespace Pointer

open Text

variable {c : Char} {name segment : List Char}

/-! ## Escapes -/

/-- The text with every occurrence of a character replaced by a text. -/
def substitute (c : Char) (replacement text : List Char) : List Char :=
  text.flatMap fun other => if other = c then replacement else [other]

/-- The name that a segment stands for, read in one pass. A tilde that begins no escape stands for
itself. -/
def decode : List Char → List Char
  | '~' :: '0' :: rest => '~' :: decode rest
  | '~' :: '1' :: rest => '/' :: decode rest
  | c :: rest => c :: decode rest
  | [] => []

theorem decode_cons_of_ne (different : c ≠ '~') : decode (c :: segment) = c :: decode segment := by
  rw [decode]
  · rintro rest equal
    cases equal
    exact absurd rfl different
  · rintro rest equal
    cases equal
    exact absurd rfl different

/-- Restoring slashes cannot make up an escape of a tilde, so two passes read what one pass does. -/
theorem unescape_eq_decode (segment : List Char) : unescape segment = decode segment := by
  fun_induction decode segment with
  | case1 rest induction =>
      have kept : replacePair '~' '1' '/' ('~' :: '0' :: rest) =
          '~' :: '0' :: replacePair '~' '1' '/' rest := by
        rw [replacePair_cons (by simp), replacePair_cons (by simp)]
      rw [unescape, kept, replacePair_pair, ← unescape, induction]
  | case2 rest induction =>
      rw [unescape, replacePair_pair, replacePair_cons (by simp), ← unescape, induction]
  | case3 c rest noTilde noSlash induction =>
      have keptFirst : c = '~' → rest.head? ≠ some '1' := by
        rintro rfl head
        rcases List.head?_eq_some_iff.mp head with ⟨rest, rfl⟩
        exact noSlash rest rfl rfl
      have keptSecond : c = '~' → (replacePair '~' '1' '/' rest).head? ≠ some '0' := by
        rintro rfl head
        rcases head?_replacePair head with head | made
        · rcases List.head?_eq_some_iff.mp head with ⟨rest, rfl⟩
          exact noTilde rest rfl rfl
        · cases made
      rw [unescape, replacePair_cons keptFirst, replacePair_cons keptSecond, ← unescape, induction]
  | case4 => rfl

theorem decode_escape (name : List Char) : decode (escape name) = name := by
  induction name with
  | nil => rfl
  | cons c name induction =>
      rw [escape]
      split
      next equal => rw [decode, induction, equal]
      next noTilde =>
        split
        next equal => rw [decode, induction, equal]
        next => rw [decode_cons_of_ne noTilde, induction]

theorem slash_notMem_escape (name : List Char) : '/' ∉ escape name := by
  induction name with
  | nil => exact List.not_mem_nil
  | cons c name induction =>
      rw [escape]
      split
      · simp [induction]
      · split
        · simp [induction]
        next _ noSlash => simp [induction, Ne.symm noSlash]

theorem escape_eq_nil_iff : escape name = [] ↔ name = [] := by
  constructor
  · intro empty
    rw [← decode_escape name, empty]
    rfl
  · rintro rfl
    rfl

/-- Tildes are escaped first, so that those of the escapes of slashes are left alone. -/
theorem escape_eq_substitute (name : List Char) :
    escape name = substitute '/' ['~', '1'] (substitute '~' ['~', '0'] name) := by
  induction name with
  | nil => rfl
  | cons c name induction =>
      rw [escape, induction]
      by_cases tilde : c = '~'
      · simp [substitute, tilde]
      · by_cases slash : c = '/' <;> simp [substitute, tilde, slash]

/-! ## References -/

/-- The reference to a component that has a name in a section. -/
def reference (area name : String) : String :=
  String.ofList (componentsLead ++ (area.toList ++ '/' :: escape name.toList))

/-- The name in the last segment of a pointer into the document. -/
def lastName? (path : String) : Option String := do
  let pointer ← Text.after? documentLead path.toList
  let segment := Text.lastPiece '/' pointer
  if segment.isEmpty then none else some (String.ofList (unescape segment))

variable {path area other : String} {text : String}

theorem component?_eq_some_iff :
    component? path area = some text ↔ ∃ segment,
      path.toList = componentsLead ++ (area.toList ++ '/' :: segment) ∧ segment ≠ [] ∧
        '/' ∉ segment ∧ String.ofList (unescape segment) = text := by
  simp only [component?, Option.bind_eq_bind, Option.bind_eq_some_iff, after?_eq_some_iff]
  constructor
  · rintro ⟨afterLead, lead, afterArea, named, segment, rfl, found⟩
    split at found
    · cases found
    next whole =>
      simp only [Bool.or_eq_true, List.isEmpty_iff, List.contains_iff_mem, not_or] at whole
      exact ⟨segment, by rw [lead, named]; rfl, whole.1, whole.2, Option.some.inj found⟩
  · rintro ⟨segment, equal, nonempty, whole, rfl⟩
    refine ⟨_, equal, _, rfl, segment, rfl, if_neg ?_⟩
    simp [nonempty, whole]

theorem lastName?_eq_some_iff :
    lastName? path = some text ↔ ∃ before segment,
      path.toList = before ++ '/' :: segment ∧ '/' ∉ segment ∧ documentLead <+: path.toList ∧
        segment ≠ [] ∧ String.ofList (unescape segment) = text := by
  simp only [lastName?, Option.bind_eq_bind, Option.bind_eq_some_iff, after?_eq_some_iff]
  have lead : documentLead = ['#', '/'] := rfl
  constructor
  · rintro ⟨pointer, equal, found⟩
    split at found
    · cases found
    next nonempty =>
      have last : lastPiece '/' path.toList = lastPiece '/' pointer := by
        rw [equal]
        exact lastPiece_append ['#'] pointer
      have member : '/' ∈ path.toList := by simp [equal, lead]
      rcases exists_lastPiece member with ⟨before, split, whole⟩
      rw [last] at split whole
      exact ⟨before, _, split, whole, ⟨pointer, equal.symm⟩, by simpa using nonempty,
        Option.some.inj found⟩
  · rintro ⟨before, segment, split, whole, ⟨pointer, equal⟩, nonempty, rfl⟩
    have last : lastPiece '/' pointer = segment :=
      calc lastPiece '/' pointer
        _ = lastPiece '/' (documentLead ++ pointer) := (lastPiece_append ['#'] pointer).symm
        _ = lastPiece '/' (before ++ '/' :: segment) := by rw [equal, split]
        _ = lastPiece '/' segment := lastPiece_append before segment
        _ = segment := lastPiece_of_notMem whole
    refine ⟨pointer, equal.symm, ?_⟩
    simp [last, nonempty]

theorem lastName?_of_component? (found : component? path area = some text) :
    lastName? path = some text := by
  rcases component?_eq_some_iff.mp found with ⟨segment, equal, nonempty, whole, name⟩
  refine lastName?_eq_some_iff.mpr ⟨componentsLead ++ area.toList, segment, ?_, whole, ?_,
    nonempty, name⟩
  · rw [equal, List.append_assoc]
  · rw [equal]
    exact ⟨"components/".toList ++ (area.toList ++ '/' :: segment), rfl⟩

theorem schema?_eq_lastName? (path : String) : schema? path = lastName? path := by
  rw [schema?]
  split
  next found => rw [lastName?_of_component? found]
  next => rfl

theorem component?_reference (nonempty : text ≠ "") :
    component? (reference area text) area = some text := by
  refine component?_eq_some_iff.mpr ⟨escape text.toList, String.toList_ofList, ?_,
    slash_notMem_escape _, ?_⟩
  · rw [ne_eq, escape_eq_nil_iff]
    simpa using nonempty
  · rw [unescape_eq_decode, decode_escape, String.ofList_toList]

/-- Only the section that it is written for reads a reference. -/
theorem component?_reference_of_ne (different : other ≠ area) :
    component? (reference area text) other = none := by
  rw [Option.eq_none_iff_forall_ne_some]
  intro found read
  rcases component?_eq_some_iff.mp read with ⟨segment, equal, _, whole, _⟩
  rw [reference, String.toList_ofList, List.append_cancel_left_eq] at equal
  have parts := append_cons_inj (slash_notMem_escape _) whole equal
  exact different (String.toList_injective parts.1.symm)

theorem reference_inj {first second : String} :
    reference area first = reference other second ↔ area = other ∧ first = second := by
  constructor
  · intro equal
    have lists := String.ofList_injective equal
    rw [List.append_cancel_left_eq] at lists
    rcases append_cons_inj (slash_notMem_escape _) (slash_notMem_escape _) lists with ⟨areas, names⟩
    have decoded := congrArg decode names
    rw [decode_escape, decode_escape] at decoded
    exact ⟨String.toList_injective areas, String.toList_injective decoded⟩
  · rintro ⟨rfl, rfl⟩
    rfl

/-- A reference that is written for a name in a section, with tildes and then slashes escaped, is read
as that name in that section and in no other one, so different names have different references. Any
path at all is read as the name of a schema by its last segment, where it points into the document and
that segment is not empty. What a path to a component says is the same. -/
theorem reference_roundTrip :
    (∀ name, escape name = substitute '/' ['~', '1'] (substitute '~' ['~', '0'] name)) ∧
      (∀ area name, name ≠ "" → component? (reference area name) area = some name ∧
        ∀ other, other ≠ area → component? (reference area name) other = none) ∧
      (∀ name, name ≠ "" → schema? (reference schemaArea name) = some name) ∧
      (∀ area other name again, reference area name = reference other again →
        area = other ∧ name = again) ∧
      (∀ path name, schema? path = some name ↔ ∃ before segment,
        path.toList = before ++ '/' :: segment ∧ '/' ∉ segment ∧ documentLead <+: path.toList ∧
          segment ≠ [] ∧ String.ofList (unescape segment) = name) ∧
      ∀ path name, component? path schemaArea = some name → lastName? path = some name := by
  refine ⟨escape_eq_substitute, ?_, ?_, ?_, ?_, ?_⟩
  · intro area name nonempty
    exact ⟨component?_reference nonempty, fun other => component?_reference_of_ne⟩
  · intro name nonempty
    rw [schema?_eq_lastName?]
    exact lastName?_of_component? (component?_reference nonempty)
  · intro area other name again
    exact reference_inj.mp
  · intro path name
    rw [schema?_eq_lastName?]
    exact lastName?_eq_some_iff
  · intro path name
    exact lastName?_of_component?

/-- A name that looks like escapes, and a path that leads through a component to what is inside it. -/
theorem reference_roundTrip_lookalike :
    component? "#/components/parameters/~01~1~001" "parameters" = some "~1/~01" ∧
      component? "#/components/parameters/~01~1~001" "parameters/~01" = none ∧
      schema? "#/components/schemas/~01~1~001" = some "~1/~01" ∧
      schema? "#/components/schemas/Pet/properties/~01" = some "~1" ∧
      reference "schemas" "~01" ≠ reference "schemas" "~1" ∧
      lastName? "#/components/schemas/~01~1~001" = some "~1/~01" := by
  have trip := reference_roundTrip
  have parameter : reference "parameters" "~1/~01" = "#/components/parameters/~01~1~001" := rfl
  have schema : reference "schemas" "~1/~01" = "#/components/schemas/~01~1~001" := rfl
  have named : "~1/~01" ≠ "" := by decide
  have read := trip.2.1 "parameters" "~1/~01" named
  refine ⟨parameter ▸ read.1, parameter ▸ read.2 "parameters/~01" (by decide), ?_, ?_, ?_, ?_⟩
  · exact schema ▸ trip.2.2.1 "~1/~01" named
  · apply (trip.2.2.2.2.1 _ _).mpr
    exact ⟨"#/components/schemas/Pet/properties".toList, "~01".toList, by decide, by decide,
      by decide, by decide, by decide⟩
  · intro equal
    exact absurd (trip.2.2.2.1 "schemas" "schemas" "~01" "~1" equal).2 (by decide)
  · apply trip.2.2.2.2.2
    exact schema ▸ trip.2.1 "schemas" "~1/~01" named |>.1

end Pointer

end ApiGraph
