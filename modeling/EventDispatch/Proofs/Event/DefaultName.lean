import EventDispatch.Event.Declaration
import EventDispatch.Proofs.Route.Segments
import Mathlib.Data.List.Basic

namespace EventDispatch

namespace Text

def capitals : CaseRun := ⟨0x41, 0x5A, 1, 32⟩

/-- All other upper-case characters lie beyond ASCII. -/
theorem upperRuns_beyond : ∃ others, upperRuns = capitals :: others ∧ ∀ r ∈ others, 128 ≤ r.first :=
  ⟨upperRuns.tail, rfl, by decide +kernel⟩

variable {c : Char}

theorem ne_dottedCapitalI (ascii : c.toNat < 128) : (c == dottedCapitalI) = false := by
  refine beq_eq_false_iff_ne.2 fun same => ?_
  rw [same] at ascii
  exact absurd ascii (by decide)

theorem isUpper_ascii (ascii : c.toNat < 128) : isUpper c = capitals.contains c.toNat := by
  obtain ⟨others, runs, beyond⟩ := upperRuns_beyond
  have none : others.any (·.contains c.toNat) = false := by
    refine List.any_eq_false.2 fun r mem => ?_
    have first := beyond r mem
    simp only [CaseRun.contains, Bool.and_eq_true, decide_eq_true_eq]
    omega
  rw [isUpper, ne_dottedCapitalI ascii, runs, List.any_cons, none, Bool.false_or, Bool.or_false]

theorem lower_ascii (ascii : c.toNat < 128) (upper : isUpper c) :
    lower c = [Char.ofNat (c.toNat + 32)] := by
  obtain ⟨others, runs, -⟩ := upperRuns_beyond
  rw [isUpper_ascii ascii] at upper
  simp only [lower, ne_dottedCapitalI ascii, runs, List.find?_cons, upper]
  rfl

end Text

def IsPart (c : Char) : Prop := Token.isWordPart c ∧ c.toNat < 128

instance (c : Char) : Decidable (IsPart c) := inferInstanceAs (Decidable (_ ∧ _))

/-- What lower-casing makes of a letter, and upper-casing undoes. -/
structure Lowered (c d : Char) : Prop where
  lower : Text.lower c = [d]
  part : IsPart d
  small : Text.isUpper d = false
  back : d.toUpper = c

namespace IsPart

variable {c : Char}

theorem plain (part : IsPart c) : c ≠ '.' ∧ c ≠ ':' ∧ c ≠ '*' := by
  refine ⟨?_, ?_, ?_⟩ <;>
    rintro rfl <;>
    exact absurd part (by decide)

theorem lowered (part : IsPart c) (upper : Text.isUpper c) : Lowered c c.toLower := by
  have letters : ∀ n < 128, Text.capitals.contains n →
      Char.ofNat (n + 32) = (Char.ofNat n).toLower ∧ IsPart (Char.ofNat n).toLower ∧
        Text.capitals.contains (Char.ofNat n).toLower.toNat = false ∧
        (Char.ofNat n).toLower.toUpper = Char.ofNat n := by decide +kernel
  have capital := upper
  rw [Text.isUpper_ascii part.2] at capital
  have letter := letters c.toNat part.2 capital
  rw [Char.ofNat_toNat] at letter
  obtain ⟨lower, part', small, back⟩ := letter
  exact ⟨(Text.lower_ascii part.2 upper).trans (congrArg (fun d => [d]) lower), part',
    (Text.isUpper_ascii part'.2).trans small, back⟩

end IsPart

def capitalize : List Char → List Char
  | [] => []
  | c :: rest => c.toUpper :: rest

def segmentsOf (name : String) : List (List Char) := Name.segments (Name.normalize name).toList

theorem segmentsOf_ofList (cs : List Char) :
    segmentsOf (String.ofList cs) = Name.segments (Name.normalizeChars cs) := by
  rw [segmentsOf, Name.normalize, String.toList_ofList, String.toList_ofList]

/-- Without colons, only dots part the segments. -/
theorem intercalate_segments {cs : List Char} (plain : ':' ∉ cs) :
    ['.'].intercalate (Name.segments (Name.normalizeChars cs)) = cs := by
  induction cs with
  | nil => rfl
  | cons c rest ih =>
    obtain ⟨other, later⟩ := List.ne_and_not_mem_of_not_mem_cons plain
    have ih := ih later
    by_cases dot : c = '.'
    · subst dot
      show ['.'].intercalate ([] :: Name.segments (Name.normalizeChars rest)) = '.' :: rest
      rw [List.intercalate_cons_of_ne_nil (Name.segments_ne_nil _), ih]
      rfl
    · have same : Name.normalizeChars (c :: rest) = c :: Name.normalizeChars rest := by
        simp [Name.normalizeChars, Name.separator, dot]
      obtain ⟨s, more, some, grown⟩ := Name.segments_cons (Ne.symm other) (Name.normalizeChars rest)
      rw [some] at ih
      rw [same, grown, ← ih]
      cases more with
      | nil => simp
      | cons t more => simp

/-- The characters after the first of a type's name, in segments: `first` goes on with the segment that
the first character begins, and each upper-case letter begins one of `more`. -/
structure Parted (rest first : List Char) (more : List (List Char)) : Prop where
  segments : Name.segments (Name.normalizeChars (rest.flatMap dottedChar)) = first :: more
  filled : ∀ s ∈ more, s ≠ []
  counted : more.length = rest.countP Text.isUpper
  recovered : first ++ more.flatMap capitalize = rest

theorem normalizeChars_cons {c : Char} (part : IsPart c) (cs : List Char) :
    Name.normalizeChars (c :: cs) = c :: Name.normalizeChars cs := by
  simp [Name.normalizeChars, Name.separator, part.plain.1]

theorem segments_part {c : Char} (part : IsPart c) {cs first : List Char} {more : List (List Char)}
    (segments : Name.segments (Name.normalizeChars cs) = first :: more) :
    Name.segments (Name.normalizeChars (c :: cs)) = (c :: first) :: more := by
  rw [normalizeChars_cons part, Name.segments, if_neg part.plain.2.1, segments]

namespace Parted

variable {c : Char} {rest first : List Char} {more : List (List Char)}

theorem keep (parted : Parted rest first more) (part : IsPart c) (small : Text.isUpper c = false) :
    Parted (c :: rest) (c :: first) more where
  segments := by
    have kept : dottedChar c = [c] := by rw [dottedChar, small]; rfl
    rw [List.flatMap_cons, kept]
    exact segments_part part parted.segments
  filled := parted.filled
  counted := by rw [parted.counted, List.countP_cons_of_neg (by simp [small])]
  recovered := congrArg (c :: ·) parted.recovered

theorem begin (parted : Parted rest first more) (part : IsPart c) (upper : Text.isUpper c) :
    Parted (c :: rest) [] ((c.toLower :: first) :: more) where
  segments := by
    have dotted : dottedChar c = ['.', c.toLower] := by
      rw [dottedChar, if_pos upper, (part.lowered upper).lower]
    rw [List.flatMap_cons, dotted]
    show [] :: Name.segments (Name.normalizeChars (c.toLower :: rest.flatMap dottedChar)) = _
    rw [segments_part (part.lowered upper).part parted.segments]
  filled := List.forall_mem_cons.2 ⟨List.cons_ne_nil _ _, parted.filled⟩
  counted := by rw [List.countP_cons_of_pos upper, ← parted.counted, List.length_cons]
  recovered := by
    rw [List.nil_append, List.flatMap_cons, capitalize, (part.lowered upper).back, List.cons_append,
      parted.recovered]

end Parted

theorem exists_parted {rest : List Char} (parts : ∀ c ∈ rest, IsPart c) :
    ∃ first more, Parted rest first more := by
  induction rest with
  | nil => exact ⟨[], [], rfl, by simp, rfl, rfl⟩
  | cons c rest ih =>
    obtain ⟨part, parts⟩ := List.forall_mem_cons.1 parts
    obtain ⟨first, more, parted⟩ := ih parts
    cases upper : Text.isUpper c with
    | false => exact ⟨_, _, parted.keep part upper⟩
    | true => exact ⟨_, _, parted.begin part upper⟩

/-- An identifier in ASCII that begins with an upper-case letter. -/
structure IsTypeName (ident : String) : Prop where
  parts : ∀ c ∈ ident.toList, IsPart c
  upper : ∃ c ∈ ident.toList.head?, Text.isUpper c

/-- An event's name that a type's name is read back from, and that a route takes as it stands. -/
structure Faithful (ident name : String) : Prop where
  plain : ∀ c ∈ name.toList, Text.isUpper c = false ∧ c ≠ ':' ∧ c ≠ '*'
  joined : ['.'].intercalate (segmentsOf name) = name.toList
  nonempty : segmentsOf name ≠ []
  filled : ∀ s ∈ segmentsOf name, s ≠ []
  counted : (segmentsOf name).length = ident.toList.countP Text.isUpper
  recovered : (segmentsOf name).flatMap capitalize = ident.toList

variable {c : Char}

theorem plain_of_mem_dottedChar {d : Char} (part : IsPart c) (mem : d ∈ dottedChar c) :
    Text.isUpper d = false ∧ d ≠ ':' ∧ d ≠ '*' := by
  have dot : Text.isUpper '.' = false := by decide +kernel
  cases upper : Text.isUpper c with
  | false =>
    rw [dottedChar, upper] at mem
    cases List.mem_singleton.1 mem
    exact ⟨upper, part.plain.2⟩
  | true =>
    have lowered := part.lowered upper
    rw [dottedChar, if_pos upper, lowered.lower, List.mem_pair] at mem
    rcases mem with rfl | rfl
    · exact ⟨dot, by decide, by decide⟩
    · exact ⟨lowered.small, lowered.part.plain.2⟩

theorem IsTypeName.faithful {ident : String} (type : IsTypeName ident) :
    Faithful ident (dottedName ident) := by
  obtain ⟨parts, c, first, upper⟩ := type
  obtain ⟨rest, chars⟩ := List.head?_eq_some_iff.1 first
  rw [chars] at parts
  obtain ⟨part, parts⟩ := List.forall_mem_cons.1 parts
  obtain ⟨first, more, parted⟩ := exists_parted parts
  have lowered := part.lowered upper
  have dotted : dottedChars ident.toList = c.toLower :: rest.flatMap dottedChar := by
    rw [chars, dottedChars, if_pos upper, lowered.lower, List.singleton_append]
  have segments : segmentsOf (dottedName ident) = (c.toLower :: first) :: more := by
    rw [dottedName, segmentsOf_ofList, dotted, segments_part lowered.part parted.segments]
  have plain : ∀ d ∈ (dottedName ident).toList, Text.isUpper d = false ∧ d ≠ ':' ∧ d ≠ '*' := by
    rw [dottedName, String.toList_ofList, dotted]
    refine List.forall_mem_cons.2 ⟨⟨lowered.small, lowered.part.plain.2⟩, fun d mem => ?_⟩
    obtain ⟨e, mem, here⟩ := List.mem_flatMap.1 mem
    exact plain_of_mem_dottedChar (parts e mem) here
  exact {
    plain := plain
    joined := by
      have colonless : ':' ∉ dottedChars ident.toList := fun mem =>
        (plain ':' (by rwa [dottedName, String.toList_ofList])).2.1 rfl
      rw [dottedName, segmentsOf_ofList, intercalate_segments colonless, String.toList_ofList]
    nonempty := by rw [segments]; exact List.cons_ne_nil _ _
    filled := by
      rw [segments]
      exact List.forall_mem_cons.2 ⟨List.cons_ne_nil _ _, parted.filled⟩
    counted := by
      rw [segments, chars, List.countP_cons_of_pos upper, ← parted.counted, List.length_cons]
    recovered := by
      rw [segments, chars, List.flatMap_cons, capitalize, lowered.back, List.cons_append,
        parted.recovered] }

/-- The default name of an event is faithful to its type, and no other type has it. -/
theorem dottedName_faithful {ident : String} (type : IsTypeName ident) :
    Faithful ident (dottedName ident) ∧
      (∀ other, IsTypeName other → dottedName other = dottedName ident → other = ident) ∧
      ∀ d : Declaration, d.name = ident → Attribute.givenName d.attributes = .ok none →
        d.eventName = .ok (dottedName ident) := by
  refine ⟨type.faithful, fun other otherType same => ?_, fun d name unnamed => ?_⟩
  · rw [String.ext_iff, ← type.faithful.recovered, ← otherType.faithful.recovered, same]
  · rw [Declaration.eventName, unnamed, name]
    rfl

/-- Capitals in a row, an underscore and digits. -/
theorem capitals_parted : IsTypeName "XMLDoc_v2" ∧ Faithful "XMLDoc_v2" "x.m.l.doc_v2" := by
  have parts : "XMLDoc_v2".toList.all (IsPart ·) := by decide +kernel
  have type : IsTypeName "XMLDoc_v2" :=
    ⟨fun c mem => of_decide_eq_true (List.all_eq_true.1 parts c mem), 'X', by decide +kernel,
      by decide +kernel⟩
  have name : dottedName "XMLDoc_v2" = "x.m.l.doc_v2" := by decide +kernel
  exact ⟨type, name ▸ (dottedName_faithful type).1⟩

end EventDispatch
