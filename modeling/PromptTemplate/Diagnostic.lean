import PromptTemplate.Declaration.OfText
import PromptTemplate.Declaration.Json

/-!
What in a template will not do what it looks like. A template never fails to be read, so a
slip stays in it as plain text; the findings are the toggle tags that belong to no block,
the directives whose keyword is no kind, and the controls that are declared again in another
way than the first time.
-/

set_option autoImplicit false
set_option relaxedAutoImplicit false

namespace PromptTemplate

/-- A fragment that has no effect, or not the one it states. -/
inductive Finding where
  | unclosedToggle (name : Text)
  | orphanToggleClose (name : Text)
  | nestedToggle (name parent : Text)
  | unknownKind (keyword name : Text)
  | conflictingDefaults (control : Kind) (name first conflicting : Text)
deriving DecidableEq, Repr

/-- A finding and the place it is about. -/
structure Diagnostic where
  finding : Finding
  span : Span
deriving DecidableEq, Repr

namespace Finding

def message : Finding → Text
  | .unclosedToggle name =>
    "toggle '".toList ++ name ++ "' is never closed with ".toList ++
      ToggleTag.source ⟨.closing, name⟩
  | .orphanToggleClose name =>
    "closing tag for toggle '".toList ++ name ++ "' has no matching opener".toList
  | .nestedToggle name parent =>
    "toggle '".toList ++ name ++ "' is nested inside toggle '".toList ++ parent ++
      "'; nested toggles are not supported".toList
  | .unknownKind keyword name =>
    "unknown control kind '".toList ++ keyword ++ "' for '".toList ++ name ++
      "' (expected text, select, slider or toggle)".toList
  | .conflictingDefaults control name first conflicting =>
    control.keyword ++ " control '".toList ++ name ++ "' is redeclared as '".toList ++
      conflicting ++ "'; the first declaration '".toList ++ first ++ "' takes effect".toList

/-- The name of the sort of finding. -/
def tag : Finding → Text
  | .unclosedToggle _ => "unclosed_toggle".toList
  | .orphanToggleClose _ => "orphan_toggle_close".toList
  | .nestedToggle _ _ => "nested_toggle".toList
  | .unknownKind _ _ => "unknown_kind".toList
  | .conflictingDefaults .. => "conflicting_defaults".toList

/-- What a finding says besides its sort. -/
def details : Finding → List (Text × Json)
  | .unclosedToggle name => [("name".toList, .text name)]
  | .orphanToggleClose name => [("name".toList, .text name)]
  | .nestedToggle name parent => [("name".toList, .text name), ("parent".toList, .text parent)]
  | .unknownKind keyword name => [("keyword".toList, .text keyword), ("name".toList, .text name)]
  | .conflictingDefaults control name first conflicting =>
    [("control".toList, .text control.keyword), ("name".toList, .text name),
      ("first".toList, .text first), ("conflicting".toList, .text conflicting)]

end Finding

namespace Diagnostic

/-- Opening tags that open no block. -/
def openingTags (t : Text) : List Diagnostic :=
  let blocks := ToggleBlock.all t
  (ToggleTag.all .opening t).filterMap fun tag ↦
    if blocks.any fun b ↦ b.span.start == tag.span.start then none
    else
      let finding :=
        match blocks.find? fun b ↦ (ToggleBlock.bodySpan b).contains tag.span with
        | some parent => Finding.nestedToggle tag.item.name parent.item.name
        | none => .unclosedToggle tag.item.name
      some ⟨finding, tag.span⟩

/-- Closing tags that lie in no block. -/
def closingTags (t : Text) : List Diagnostic :=
  let blocks := ToggleBlock.all t
  (ToggleTag.all .closing t).filterMap fun tag ↦
    if blocks.any fun b ↦ b.span.contains tag.span then none
    else some ⟨.orphanToggleClose tag.item.name, tag.span⟩

/-- Directives with a word for a keyword that names no kind. -/
def unknownKinds (t : Text) : List Diagnostic :=
  (Directive.wordy t).filterMap fun d ↦
    if d.item.kind?.isSome then none
    else some ⟨.unknownKind d.item.keyword d.item.name, d.span⟩

/-- What a declaration states besides its name, as it is written in a directive. -/
def signature (d : Declaration) : Text :=
  match d.kind, d.range with
  | .select, _ => Text.join ['|'] d.options
  | .slider, some range =>
    d.defaultValue ++ ':' :: Integer.text range.min ++ ':' :: Integer.text range.max
  | _, _ => d.defaultValue

/-- Declarations that state something else than the first one of their control, which is
looked for among those before them. -/
def redeclarationsAfter (before : List Declaration) : List Declaration → List Diagnostic
  | [] => []
  | d :: rest =>
    match before.find? (Declaration.sameControl d) with
    | some first =>
      let later := redeclarationsAfter before rest
      if signature first = signature d then later
      else
        ⟨.conflictingDefaults d.kind d.name (signature first) (signature d), d.span⟩ :: later
    | none => redeclarationsAfter (before ++ [d]) rest

/-- The flat controls of a text wherever they are written, from left to right. -/
def flatControls (t : Text) : List Declaration :=
  Declaration.inOrder
    (Declaration.outside t ++ (ToggleBlock.all t).flatMap Declaration.inside)

/-- Controls that are declared again in another way. -/
def redeclarations (t : Text) : List Diagnostic := redeclarationsAfter [] (flatControls t)

/-- All findings of a text, from left to right. -/
def ofText (t : Text) : List Diagnostic :=
  sortBy (fun a b ↦ a.span.start ≤ b.span.start)
    (openingTags t ++ closingTags t ++ unknownKinds t ++ redeclarations t)

def message (d : Diagnostic) : Text := d.finding.message

/-- The fields of a diagnostic in JSON. -/
def fields (d : Diagnostic) : List (Text × Json) :=
  ("kind".toList, .text d.finding.tag) :: d.finding.details ++
    [("span".toList, d.span.toJson)]

end Diagnostic

/-- A line and a column, both counted from one. -/
structure Location where
  line : Nat
  column : Nat
deriving DecidableEq, Repr

namespace Location

/-- The location of a byte offset in a text whose first character is at a location. -/
def advance (start : Location) (offset : Nat) : Text → Location
  | [] => start
  | c :: t =>
    if offset = 0 then start
    else
      let next : Location :=
        if c = '\n' then ⟨start.line + 1, 1⟩ else ⟨start.line, start.column + 1⟩
      advance next (offset - c.utf8Size) t

/-- The location of a byte offset. An offset inside a character counts as the end of it. -/
def ofOffset (t : Text) (offset : Nat) : Location := advance ⟨1, 1⟩ offset t

end Location

end PromptTemplate
