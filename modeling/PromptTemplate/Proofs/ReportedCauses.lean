import PromptTemplate.Failure
import PromptTemplate.Proofs.TextParts

/-!
What contexts do to what is told about a cause. A context is a link that is only text, and the
search through the chain of a fault passes over such links. So the chain is recognized by its cause
or not at all, however many contexts there are (`Fault.report_wrapped`).

Three things can be told. A known failure and a report keep the report of their own. A missing file,
a refused permission and a fault of a file format keep their text and a suggestion under the
outermost text as headline. All other causes, faults of the system of any other sort among them,
leave all texts of the chain and no suggestion (`Cause.outlastsContexts`).
-/

set_option autoImplicit false
set_option relaxedAutoImplicit false

namespace PromptTemplate

namespace Cause

/-- A cause in contexts that were put around it one after the other. -/
def wrapped (cause : Cause) (contexts : List Text) : Fault :=
  contexts.foldl Fault.within ⟨cause, []⟩

/-- The report that a cause has of its own. -/
def ownReport? : Cause → Option Report
  | .failure f => some f.report
  | .report r => some r
  | _ => none

/-- The causes without a report of their own that there is a suggestion for. -/
inductive IsAdvised : Cause → Prop
  | notFound (text : Text) : IsAdvised (.system .notFound text)
  | permissionDenied (text : Text) : IsAdvised (.system .permissionDenied text)
  | json (text : Text) : IsAdvised (.json text)
  | toml (text : Text) : IsAdvised (.toml text)

/-- Whether contexts leave what there is to tell about a cause as it is. The texts of the chain,
from the outermost one on, are those of the contexts and last the text of the cause. -/
structure OutlastsContexts (cause : Cause) : Prop where
  /-- A report that the cause has of its own is told whatever the contexts. -/
  own : ∀ own, cause.ownReport? = some own → ∀ contexts, (cause.wrapped contexts).report = own
  /-- The suggestion and the details are the same in all contexts, and the details are the text of
  the cause. -/
  advised : cause.IsAdvised → ∃ suggestion, ∀ contexts outermost below,
    contexts.reverse ++ [cause.text] = outermost :: below →
      (cause.wrapped contexts).report = ⟨.other outermost, some cause.text, some suggestion⟩
  /-- Nothing is suggested, and the details are all texts below the outermost one. -/
  plain : cause.ownReport? = none → ¬ cause.IsAdvised → ∀ contexts outermost below,
    contexts.reverse ++ [cause.text] = outermost :: below →
      (cause.wrapped contexts).report = ⟨.other outermost,
        if contexts = [] then none else some (List.intercalate [':', ' '] below), none⟩

end Cause

namespace Fault

variable (cause : Cause) (contexts : List Text)

theorem foldl_within (fault : Fault) (contexts : List Text) :
    contexts.foldl within fault = ⟨fault.cause, fault.contexts ++ contexts⟩ := by
  induction contexts generalizing fault with
  | nil => rw [List.foldl_nil, List.append_nil]
  | cons context contexts ih =>
    rw [List.foldl_cons, ih, within, List.append_assoc, List.singleton_append]

theorem wrapped_eq : cause.wrapped contexts = ⟨cause, contexts⟩ :=
  foldl_within ⟨cause, []⟩ contexts

/-- The chain of a cause is what it was wrapped in, from the outside, and the cause itself. -/
theorem map_text_chain :
    (cause.wrapped contexts).chain.map Cause.text = contexts.reverse ++ [cause.text] := by
  have htext : Cause.text ∘ Cause.plain = id := rfl
  rw [wrapped_eq, chain, List.map_append, List.map_map, htext, List.map_id, List.map_singleton]

variable {cause contexts}

/-- The headline is the outermost text. -/
theorem headline_eq {outermost : Text} {below : List Text}
    (h : contexts.reverse ++ [cause.text] = outermost :: below) :
    (cause.wrapped contexts).headline = outermost := by
  rw [wrapped_eq, headline]
  dsimp only
  rw [List.getLast?_eq_head?_reverse]
  cases hreverse : contexts.reverse with
  | nil =>
    rw [hreverse] at h
    exact (List.cons.inj h).1
  | cons context contexts =>
    rw [hreverse, List.cons_append] at h
    exact (List.cons.inj h).1

/-- The contexts are passed over: what is told is told about the cause, or it is all texts. -/
theorem report_wrapped (cause : Cause) (contexts : List Text) :
    (cause.wrapped contexts).report =
      (cause.report? (cause.wrapped contexts).headline).getD
        (cause.wrapped contexts).plainReport := by
  have hcontexts : ∀ headline,
      (contexts.reverse.map Cause.plain).findSome? (Cause.report? headline) = none := by
    intro headline
    rw [List.findSome?_eq_none_iff]
    intro link hlink
    obtain ⟨context, -, rfl⟩ := List.mem_map.mp hlink
    rfl
  have hchain : (cause.wrapped contexts).chain = contexts.reverse.map .plain ++ [cause] := by
    rw [wrapped_eq, chain]
  rw [report, hchain, List.findSome?_append, hcontexts, Option.none_or, List.findSome?_singleton]

/-- Without a report for its cause, a fault tells of its outermost text and of the others below it.
-/
theorem plainReport_wrapped {outermost : Text} {below : List Text}
    (h : contexts.reverse ++ [cause.text] = outermost :: below) :
    (cause.wrapped contexts).plainReport = ⟨.other outermost,
      if contexts = [] then none else some (List.intercalate [':', ' '] below), none⟩ := by
  have hbelow : (cause.wrapped contexts).chain.tail.map Cause.text = below := by
    rw [List.map_tail, map_text_chain, h, List.tail_cons]
  have hempty : below.isEmpty = true ↔ contexts = [] := by
    have hlength := congrArg List.length h
    rw [List.length_append, List.length_reverse, List.length_singleton, List.length_cons] at hlength
    rw [List.isEmpty_iff, ← List.length_eq_zero_iff, ← List.length_eq_zero_iff]
    omega
  rw [plainReport, hbelow, headline_eq h, Text.join_eq_intercalate]
  simp only [hempty]

end Fault

namespace Cause

theorem report?_of_ownReport? {cause : Cause} {own : Report} (h : cause.ownReport? = some own)
    (headline : Text) : cause.report? headline = some own := by
  cases cause with
  | failure f => exact h
  | report r => exact h
  | system | json | toml | plain => cases h

/-- A cause with advice keeps the headline and has its own text as the details. -/
theorem report?_of_isAdvised {cause : Cause} (h : cause.IsAdvised) :
    ∃ suggestion, ∀ headline,
      cause.report? headline = some ⟨.other headline, some cause.text, some suggestion⟩ := by
  cases h <;> exact ⟨_, fun _ ↦ rfl⟩

theorem report?_eq_none {cause : Cause} (hown : cause.ownReport? = none)
    (hadvised : ¬ cause.IsAdvised) (headline : Text) : cause.report? headline = none := by
  cases cause with
  | failure f => cases hown
  | report r => cases hown
  | system sort text =>
    cases sort with
    | notFound => exact absurd (.notFound text) hadvised
    | permissionDenied => exact absurd (.permissionDenied text) hadvised
    | uncategorized => rfl
  | json text => exact absurd (.json text) hadvised
  | toml text => exact absurd (.toml text) hadvised
  | plain => rfl

/-- Whatever the cause and the contexts around it, the contexts do not hide the cause. -/
theorem outlastsContexts (cause : Cause) : cause.OutlastsContexts where
  own own hown contexts := by
    rw [Fault.report_wrapped, report?_of_ownReport? hown, Option.getD_some]
  advised hadvised := by
    obtain ⟨suggestion, hreport⟩ := report?_of_isAdvised hadvised
    refine ⟨suggestion, fun contexts outermost below htexts ↦ ?_⟩
    rw [Fault.report_wrapped, Fault.headline_eq htexts, hreport, Option.getD_some]
  plain hown hadvised contexts outermost below htexts := by
    rw [Fault.report_wrapped, report?_eq_none hown hadvised, Option.getD_none,
      Fault.plainReport_wrapped htexts]

end Cause

/-- A refused permission in two contexts, and a fault of the system without advice in the same. -/
example :
    (Cause.wrapped (.system .permissionDenied ['p']) [['a'], ['b']]).report.details =
        some ['p'] ∧
      (Cause.wrapped (.system .uncategorized ['p']) [['a'], ['b']]).report =
        ⟨.other ['b'], some ['a', ':', ' ', 'p'], none⟩ := by decide

end PromptTemplate
