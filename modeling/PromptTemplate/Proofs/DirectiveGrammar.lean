import PromptTemplate.Directive
import PromptTemplate.Proofs.ScanRun

/-!
The grammar of directives. `Directive.Valid` says which parts can be written as a directive: no
colon and no closing brace in the keyword or the name, something that is not blank in both, and
no closing brace in the rest. The reader reads exactly the sources of valid directives
(`Directive.read?_eq_some_iff`), so a scan for directives is lawful (`Directive.lawful`).
-/

set_option autoImplicit false
set_option relaxedAutoImplicit false

namespace PromptTemplate

/-- Whether a written name can be read back: no character in it ends a name, and it is not
blank. -/
structure IsName (written : Text) : Prop where
  plain : ∀ c ∈ written, endsName c = false
  trim_ne_nil : Text.trim written ≠ []

/-- A trimmed word can be written where a name can. -/
theorem isName_of_trim_eq {t : Text} (hplain : t.all (!endsName ·) = true)
    (htrim : Text.trim t = t) (hne : t ≠ []) : IsName t where
  plain c hc := by simpa using List.all_eq_true.mp hplain c hc
  trim_ne_nil := by rwa [htrim]

/-- What precedes the first character that ends a name. -/
theorem takeWhile_dropWhile_name {written : Text} {c : Char}
    (hplain : ∀ d ∈ written, endsName d = false) (hc : endsName c = true) (rest : Text) :
    (written ++ c :: rest).takeWhile (!endsName ·) = written ∧
      (written ++ c :: rest).dropWhile (!endsName ·) = c :: rest :=
  Text.takeWhile_dropWhile_append (fun d hd ↦ by rw [hplain d hd]; rfl) (by rw [hc]; rfl) rest

theorem endsName_eq_false_of_mem_takeWhile {t : Text} {c : Char}
    (hc : c ∈ t.takeWhile (!endsName ·)) : endsName c = false := by
  have hnot := Text.eq_true_of_mem_takeWhile hc
  simpa using hnot

namespace Directive

/-- The parts of a directive that can be read back from its source. -/
structure Valid (d : Directive) : Prop where
  keyword_isName : IsName d.writtenKeyword
  name_isName : IsName d.writtenName
  rest_closed : ∀ rest, d.rest = some rest → '}' ∉ rest

/-- What a directive writes between its name and the closing mark. -/
def restSource : Option Text → Text
  | some rest => ':' :: rest
  | none => []

/-- The source of a directive, with the parts as they are written. -/
theorem source_eq (d : Directive) : d.source = openMark ++ (d.writtenKeyword ++
    ':' :: (d.writtenName ++ (restSource d.rest ++ closeMark))) := by
  obtain ⟨keyword, name, rest⟩ := d
  cases rest <;> simp [source, restSource]

theorem source_ne_nil (d : Directive) : d.source ≠ [] := by
  rw [source_eq]
  simp [openMark]

theorem openMark_isPrefix_source (d : Directive) : openMark <+: d.source := by
  rw [source_eq]
  exact List.prefix_append _ _

theorem closeMark_isSuffix_source (d : Directive) : closeMark <:+ d.source :=
  List.suffix_append _ _

/-- The rest is read up to the first closing brace, which must be doubled. -/
theorem readRest?_eq_some_iff {t : Text} {rest : Option Text} :
    readRest? t = some rest ↔
      (∀ r, rest = some r → '}' ∉ r) ∧ restSource rest ++ closeMark <+: t := by
  constructor
  · intro h
    unfold readRest? at h
    split at h
    · rename_i t
      split at h
      · rename_i post hdrop
        obtain rfl := Option.some.inj h
        refine ⟨fun r hr hmem ↦ ?_, post, ?_⟩
        · have hne := Text.eq_true_of_mem_takeWhile (Option.some.inj hr ▸ hmem)
          simp at hne
        · have happend := List.takeWhile_append_dropWhile (p := (· != '}')) (l := t)
          rw [hdrop] at happend
          simp only [restSource, closeMark, List.cons_append, List.append_assoc, List.nil_append,
            happend]
      · simp at h
    · rename_i post
      obtain rfl := Option.some.inj h
      exact ⟨by simp, post, rfl⟩
    · simp at h
  · rintro ⟨hclosed, post, rfl⟩
    cases rest with
    | none => rfl
    | some rest =>
      have hrun : ∀ c ∈ rest, (c != '}') = true := by
        intro c hc
        rw [bne_iff_ne]
        exact fun heq ↦ hclosed rest rfl (heq ▸ hc)
      obtain ⟨htake, hdrop⟩ := Text.takeWhile_dropWhile_append (c := '}') hrun (by decide)
        ('}' :: post)
      simp only [restSource, closeMark, readRest?, List.cons_append, List.append_assoc,
        List.nil_append, htake, hdrop]

/-- A name ends where the rest or the closing mark begins. -/
theorem exists_cons_restSource (rest : Option Text) (post : Text) :
    ∃ c more, restSource rest ++ closeMark ++ post = c :: more ∧ endsName c = true := by
  cases rest with
  | none => exact ⟨'}', '}' :: post, rfl, by decide⟩
  | some rest => exact ⟨':', rest ++ closeMark ++ post, by simp [restSource], by decide⟩

/-- A directive is read exactly where its source stands at the head of the text. -/
theorem read?_eq_some_iff {t : Text} {d : Directive} :
    read? t = some d ↔ d.Valid ∧ d.source <+: t := by
  constructor
  · intro h
    obtain ⟨inner, hinner, h⟩ := Option.bind_eq_some_iff.mp h
    rw [Text.isPrefixOf?_eq_some_iff] at hinner
    dsimp only at h
    split at h
    · rename_i afterKeyword hkeyword
      split at h
      · simp at h
      · rename_i hsolid
        obtain ⟨rest, hrest, rfl⟩ := Option.map_eq_some_iff.mp h
        obtain ⟨hclosed, post, hpost⟩ := readRest?_eq_some_iff.mp hrest
        simp only [Bool.or_eq_true, List.isEmpty_iff, not_or] at hsolid
        refine ⟨⟨⟨fun c ↦ endsName_eq_false_of_mem_takeWhile, hsolid.1⟩,
          ⟨fun c ↦ endsName_eq_false_of_mem_takeWhile, hsolid.2⟩, hclosed⟩, post, ?_⟩
        have hname := List.takeWhile_append_dropWhile (p := (!endsName ·)) (l := afterKeyword)
        have hinner' := List.takeWhile_append_dropWhile (p := (!endsName ·)) (l := inner)
        rw [hkeyword, ← hname, ← hpost] at hinner'
        rw [hinner, source_eq]
        simpa only [List.append_assoc, List.cons_append] using congrArg (openMark ++ ·) hinner'
    · simp at h
  · rintro ⟨⟨hkeyword, hname, hclosed⟩, post, rfl⟩
    obtain ⟨c, more, hstop, hc⟩ := exists_cons_restSource d.rest post
    have hrest : readRest? (c :: more) = some d.rest :=
      readRest?_eq_some_iff.mpr ⟨hclosed, post, hstop⟩
    obtain ⟨htake₁, hdrop₁⟩ := takeWhile_dropWhile_name (c := ':') hkeyword.plain (by decide)
      (d.writtenName ++ c :: more)
    obtain ⟨htake₂, hdrop₂⟩ := takeWhile_dropWhile_name hname.plain hc more
    have hsource : d.source ++ post =
        openMark ++ (d.writtenKeyword ++ ':' :: (d.writtenName ++ c :: more)) := by
      rw [source_eq, ← hstop]
      simp only [List.append_assoc, List.cons_append]
    rw [hsource, read?, Text.isPrefixOf?_eq_some_iff.mpr rfl, Option.bind_some]
    simp only [htake₁, hdrop₁, htake₂, hdrop₂, hrest, Option.map_some, List.isEmpty_iff,
      hkeyword.trim_ne_nil, hname.trim_ne_nil, Bool.or_eq_true, or_self, ↓reduceIte]

/-- The source of a directive determines its parts. -/
theorem source_injective {d d' : Directive} (hd : d.Valid) (hd' : d'.Valid)
    (h : d.source = d'.source) : d = d' := by
  have hread := read?_eq_some_iff.mpr ⟨hd, List.prefix_refl d.source⟩
  rw [h, read?_eq_some_iff.mpr ⟨hd', List.prefix_refl d'.source⟩] at hread
  exact (Option.some.inj hread).symm

/-- A directive is read from its source alone, whatever follows, so the scan for directives is
lawful. -/
theorem lawful : Scan.Lawful read? source where
  source_isPrefix h := (read?_eq_some_iff.mp h).2
  source_ne_nil _ := source_ne_nil _

/-- The scan for directives of some kind is lawful. -/
theorem lawful_known :
    Scan.Lawful (fun t ↦ (read? t).filter (·.kind?.isSome)) source :=
  lawful.filter _

end Directive

end PromptTemplate
