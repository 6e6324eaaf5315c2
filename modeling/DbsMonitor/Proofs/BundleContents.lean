import DbsMonitor.Constrained
import DbsMonitor.DiagnosticBundle

/-!
# A diagnostic bundle is small enough and holds no secret

The scan of a JSON file looks at another text than the one in the bundle: at the value without its
password fields. A marker is found in either only inside a name or a text, and those are the same.
The journal is scanned whole and cut behind a line feed, which is in no marker.
-/

namespace DbsMonitor

open Constrained Json Utf8

variable {packages : BundlePackages} {secrets : List (List UInt8)} {marker : List UInt8}

theorem marker_spec (h : marker ∈ forbiddenMarkers) :
    quote ∉ marker ∧ Mail.lf ∉ marker ∧ ∃ byte ∈ marker, byte ∉ plainBytes.map lowerByte := by
  revert marker
  decide

theorem redactItems_eq_map (items : List Json) :
    redactItems items = items.map redactDiagnosticPasswordFields := by
  induction items with
  | nil => rfl
  | cons item items ih => rw [redactItems, ih, List.map_cons]

theorem redactFields_eq_map (fields : List (List UInt8 × Json)) :
    redactFields fields = fields.map fun field =>
      (field.1, if isDiagnosticPasswordField field.1 then .string diagnosticRedactedValue
        else redactDiagnosticPasswordFields field.2) := by
  induction fields with
  | nil => rfl
  | cons field fields ih => rw [redactFields, ih, List.map_cons]

theorem field_redactDiagnosticPasswordFields {name : List UInt8} {child : Json}
    (hname : isDiagnosticPasswordField name = true) : ∀ value : Json,
    Field name child (redactDiagnosticPasswordFields value) →
      child = .string diagnosticRedactedValue := by
  intro value
  induction value with
  | array items ih =>
    intro h
    rw [redactDiagnosticPasswordFields, redactItems_eq_map] at h
    cases h with
    | item hmem hitem =>
      obtain ⟨item, hitem', rfl⟩ := List.mem_map.mp hmem
      exact ih item hitem' hitem
  | object fields ih =>
    intro h
    rw [redactDiagnosticPasswordFields, redactFields_eq_map] at h
    cases h with
    | here hmem =>
      obtain ⟨field, -, heq⟩ := List.mem_map.mp hmem
      obtain ⟨rfl, rfl⟩ := Prod.mk.inj heq
      rw [if_pos hname]
    | field hmem hfield =>
      obtain ⟨field, hmem', rfl⟩ := List.mem_map.mp hmem
      dsimp only at hfield
      split_ifs at hfield
      · cases hfield
      · exact ih field hmem' hfield
  | null | bool | number | string =>
    intro h
    cases h

theorem texts_subset (hides : List UInt8 → Bool) (value : Json) :
    value.texts hides ⊆ value.texts fun _ => false := by
  induction value with
  | array items ih =>
    rw [Json.texts, Json.texts]
    induction items with
    | nil => exact List.Subset.refl _
    | cons item items ihitems =>
      rw [itemTexts, itemTexts, List.append_subset]
      exact ⟨List.subset_append_of_subset_left _ (ih item (by simp)),
        List.subset_append_of_subset_right _ (ihitems fun item hitem => ih item (by simp [hitem]))⟩
  | object fields ih =>
    rw [Json.texts, Json.texts]
    induction fields with
    | nil => exact List.Subset.refl _
    | cons field fields ihfields =>
      rw [fieldTexts, fieldTexts, if_neg Bool.false_ne_true, List.append_subset]
      refine ⟨List.subset_append_of_subset_left _ ?_, List.subset_append_of_subset_right _
        (ihfields fun field hfield => ih field (by simp [hfield]))⟩
      split_ifs
      · exact List.nil_subset _
      · exact List.cons_subset_cons _ (ih field (by simp))
  | null | bool | number | string => exact List.Subset.refl _

/-- What is left has the texts outside the password fields. -/
theorem texts_removeRedactedPasswordFields (value : Json) : ∀ value',
    removeRedactedPasswordFields value = some value' →
      (value'.texts fun _ => false) = value.texts isDiagnosticPasswordField := by
  induction value with
  | array items ih =>
    intro value' h
    rw [removeRedactedPasswordFields] at h
    obtain ⟨items', hitems, rfl⟩ := Option.map_eq_some_iff.mp h
    rw [Json.texts, Json.texts]
    clear h
    induction items generalizing items' with
    | nil =>
      cases hitems
      rfl
    | cons item items ihitems =>
      rw [removeFromItems] at hitems
      obtain ⟨item', hitem, hitems⟩ := Option.bind_eq_some_iff.mp hitems
      obtain ⟨rest, hrest, rfl⟩ := Option.map_eq_some_iff.mp hitems
      rw [itemTexts, itemTexts, ih item (by simp) item' hitem,
        ihitems (fun item hitem => ih item (by simp [hitem])) rest hrest]
  | object fields ih =>
    intro value' h
    rw [removeRedactedPasswordFields] at h
    obtain ⟨fields', hfields, rfl⟩ := Option.map_eq_some_iff.mp h
    rw [Json.texts, Json.texts]
    clear h
    induction fields generalizing fields' with
    | nil =>
      cases hfields
      rfl
    | cons field fields ihfields =>
      obtain ⟨name, child⟩ := field
      have ihrest := ihfields fun field hfield => ih field (by simp [hfield])
      rw [removeFromFields] at hfields
      split_ifs at hfields with hname
      · rw [fieldTexts, if_pos hname, List.nil_append, ihrest fields' hfields]
      · obtain ⟨child', hchild, hfields⟩ := Option.bind_eq_some_iff.mp hfields
        obtain ⟨rest, hrest, rfl⟩ := Option.map_eq_some_iff.mp hfields
        rw [fieldTexts, fieldTexts, if_neg hname, if_neg Bool.false_ne_true, ihrest rest hrest,
          ih (name, child) (by simp) child' hchild]
  | null | bool | number | string =>
    intro value' h
    cases h
    simp [Json.texts]

/-- The file is what is written of the value, whose password fields have the placeholder. -/
def Redacted (packages : BundlePackages) (file : DiagnosticFile) (value : Json) : Prop :=
  file.content = packages.marshalIndent value ++ [Mail.lf]
    ∧ ∀ name child, Field name child value → isDiagnosticPasswordField name = true →
      child = .string diagnosticRedactedValue

/-- However the value is written without its password fields, no marker is found. -/
def Unmarked (packages : BundlePackages) (value : Json) : Prop :=
  ∀ marker ∈ forbiddenMarkers, ∀ bytes,
    Written packages.escape (value.texts isDiagnosticPasswordField) bytes →
      ¬ marker <:+: toLower bytes

theorem redacted_marshalDiagnosticJSON (name : String) (value : Json) :
    Redacted packages (packages.marshalDiagnosticJSON name value)
      (redactDiagnosticPasswordFields value) :=
  ⟨rfl, fun _ _ hfield hname => field_redactDiagnosticPasswordFields hname value hfield⟩

theorem scanDiagnosticContent_eq_ok {file : DiagnosticFile}
    (h : packages.scanDiagnosticContent secrets file = .ok ()) :
    (∀ secret ∈ secrets, secret ≠ [] → ¬ secret <:+: file.content)
      ∧ ∃ content, packages.contentWithoutRedactedPasswordFields file = .ok content
        ∧ ∀ marker ∈ forbiddenMarkers, ¬ marker <:+: toLower content := by
  unfold BundlePackages.scanDiagnosticContent at h
  split_ifs at h with hsecret
  obtain ⟨content, hcontent, h⟩ := bind_eq_ok.mp h
  split_ifs at h with hmarker
  exact ⟨fun secret hmem hne hfound => hsecret ⟨secret, hmem, hne, hfound⟩, content, hcontent,
    fun marker hmem hfound => hmarker ⟨marker, hmem, hfound⟩⟩

theorem unmarked_of_scan {file : DiagnosticFile} {value : Json} {content : List UInt8}
    (hfile : Redacted packages file value)
    (h : packages.contentWithoutRedactedPasswordFields file = .ok content)
    (hmarkers : ∀ marker ∈ forbiddenMarkers, ¬ marker <:+: toLower content) :
    Unmarked packages value := by
  intro marker hmarker bytes hbytes hfound
  obtain ⟨hquote, -, byte, hbyte, hplain⟩ := marker_spec hmarker
  obtain ⟨text, htext, hfound⟩ := (hbytes.infix_toLower_iff hquote hbyte hplain).mp hfound
  -- the whole file is scanned, or what is written of the value without its password fields
  have hscanned : content = packages.marshalIndent value ++ [Mail.lf]
      ∨ ∃ value', content = packages.marshal value'
        ∧ (value'.texts fun _ => false) = value.texts isDiagnosticPasswordField := by
    unfold BundlePackages.contentWithoutRedactedPasswordFields at h
    rw [hfile.1] at h
    split_ifs at h
    · cases h
      exact .inl rfl
    split at h
    · cases h
      exact .inl rfl
    · rename_i read hread
      split at h <;> cases h
      rename_i value' hremoved
      refine .inr ⟨value', rfl, ?_⟩
      rw [texts_removeRedactedPasswordFields read value' hremoved,
        packages.unmarshal_texts value read _ hread]
  rcases hscanned with rfl | ⟨value', rfl, htexts⟩
  · refine hmarkers marker hmarker ?_
    rw [toLower_append_cons (by decide)]
    refine List.IsInfix.trans ?_ (List.prefix_append _ _).isInfix
    exact ((packages.marshalIndent_written value).infix_toLower_iff hquote hbyte hplain).mpr
      ⟨text, texts_subset _ value htext, hfound⟩
  · refine hmarkers marker hmarker ?_
    refine ((packages.marshal_written value').infix_toLower_iff hquote hbyte hplain).mpr ?_
    exact ⟨text, htexts ▸ htext, hfound⟩

theorem flatten_consFirst (byte : UInt8) (lines : List (List UInt8)) :
    (Mail.consFirst byte lines).flatten = byte :: lines.flatten := by
  cases lines <;> rfl

theorem flatten_wholeLines : ∀ journal : List UInt8, (wholeLines journal).flatten = journal
  | [] => rfl
  | byte :: journal => by
    rw [wholeLines]
    split_ifs
    · rw [List.flatten_cons, flatten_wholeLines journal]
      rfl
    · rw [flatten_consFirst, flatten_wholeLines journal]

/-- What is left of a journal without its first lines comes behind a line feed. -/
theorem drop_wholeLines : ∀ (journal : List UInt8) (k : ℕ),
    ((wholeLines journal).drop (k + 1)).flatten = []
      ∨ ∃ front, journal = front ++ Mail.lf :: ((wholeLines journal).drop (k + 1)).flatten
  | [], _ => .inl rfl
  | byte :: journal, k => by
    have hcons : ∀ rest, rest = [] ∨ (∃ front, journal = front ++ Mail.lf :: rest) →
        rest = [] ∨ ∃ front, byte :: journal = front ++ Mail.lf :: rest := by
      rintro rest (hnil | ⟨front, rfl⟩)
      · exact .inl hnil
      · exact .inr ⟨byte :: front, rfl⟩
    rw [wholeLines]
    split_ifs with hlf
    · rw [List.drop_succ_cons]
      cases k with
      | zero => exact .inr ⟨[], by rw [List.drop_zero, flatten_wholeLines, hlf]; rfl⟩
      | succ k => exact hcons _ (drop_wholeLines journal k)
    · have hdrop : (Mail.consFirst byte (wholeLines journal)).drop (k + 1)
          = (wholeLines journal).drop (k + 1) := by
        cases wholeLines journal <;> simp [Mail.consFirst]
      rw [hdrop]
      exact hcons _ (drop_wholeLines journal k)

theorem lastLines_cases (journal : List UInt8) (count : ℕ) :
    lastLines journal count = [] ∨ lastLines journal count = journal
      ∨ ∃ front, journal = front ++ Mail.lf :: lastLines journal count := by
  unfold lastLines
  cases (wholeLines journal).length - count with
  | zero => exact .inr (.inl (flatten_wholeLines journal))
  | succ k => exact (drop_wholeLines journal k).imp_right .inr

theorem infix_of_lastLines {journal secret : List UInt8} {count : ℕ}
    (h : secret <:+: lastLines journal count) : secret <:+: journal := by
  refine h.trans (List.IsSuffix.isInfix ?_)
  have hsplit := congrArg List.flatten
    (List.take_append_drop ((wholeLines journal).length - count) (wholeLines journal))
  rw [List.flatten_append, flatten_wholeLines] at hsplit
  exact ⟨_, hsplit⟩

theorem infix_toLower_of_lastLines {journal : List UInt8} {count : ℕ}
    (hmarker : marker ∈ forbiddenMarkers) (h : marker <:+: toLower (lastLines journal count)) :
    marker <:+: toLower journal := by
  obtain ⟨-, hlf, byte, hbyte, -⟩ := marker_spec hmarker
  rcases lastLines_cases journal count with hnil | hall | ⟨front, hfront⟩
  · rw [hnil, toLower, List.infix_nil] at h
    rw [h] at hbyte
    cases hbyte
  · rwa [hall] at h
  · rw [hfront, toLower_append_cons (by decide),
      infix_append_cons_iff (show lowerByte Mail.lf ∉ marker from hlf)]
    exact .inr h

/-- The archive has the last `count` lines of the journal, and no more of them fit if the size does
not decrease with their number. -/
structure LongestFitting (size : DiagnosticArchive → ℕ) (maximumBytes : ℤ) (journal : List UInt8)
    (render : List UInt8 → DiagnosticArchive) (archive : DiagnosticArchive) (count : ℕ) :
    Prop where
  fits : size archive ≤ maximumBytes
  le_length : count ≤ (wholeLines journal).length
  lines : archive.journal = lastLines journal count
  longest : (∀ fewer more, fewer ≤ more → size (render (lastLines journal fewer))
      ≤ size (render (lastLines journal more))) →
    ∀ more ≤ (wholeLines journal).length, size (render (lastLines journal more)) ≤ maximumBytes →
      more ≤ count

section Fitting

variable {size : DiagnosticArchive → ℕ} {maximumBytes : ℤ} {journal : List UInt8}
  {render : List UInt8 → Bool → DiagnosticArchive} {archive : DiagnosticArchive}

theorem longestFitting_of_eq_ok (hrender : ∀ journal, (render journal true).journal = journal)
    (h : largestFittingDiagnosticArchive size maximumBytes journal (render · true)
      = .ok archive) :
    ∃ count, LongestFitting size maximumBytes journal (render · true) archive count
      ∧ archive = render (lastLines journal count) true := by
  simp only [largestFittingDiagnosticArchive] at h
  set fits := fun count => decide (size (render (lastLines journal count) true) ≤ maximumBytes)
  split_ifs at h with hzero
  cases h
  obtain ⟨hfits, hle⟩ := @Bisection.last_passes fits (wholeLines journal).length 0 _ 0 hzero
    (Nat.zero_le _) (Nat.le_refl _)
  refine ⟨_, ⟨of_decide_eq_true hfits, hle, hrender _, fun hmono more hmore hpass => ?_⟩, rfl⟩
  refine Bisection.le_last (fun fewer more hfewer _ hpass => ?_) (Nat.zero_le _) (Nat.zero_le _)
    (Nat.le_refl _) (fun k hk hk' => absurd hk' (Nat.not_le.mpr hk)) hmore (decide_eq_true hpass)
  exact decide_eq_true ((Int.ofNat_le.mpr (hmono fewer more hfewer)).trans
    (of_decide_eq_true hpass))

theorem exists_longestFitting {truncated : Bool}
    (hrender : ∀ journal truncated, (render journal truncated).journal = journal)
    (h : (if size (render journal truncated) ≤ maximumBytes then .ok (render journal truncated)
      else largestFittingDiagnosticArchive size maximumBytes journal (render · true))
        = .ok archive) :
    ∃ count, LongestFitting size maximumBytes journal (render · true) archive count
      ∧ ∃ truncated, archive = render (lastLines journal count) truncated := by
  split_ifs at h with hfits
  · cases h
    have hall : lastLines journal (wholeLines journal).length = journal := by
      rw [lastLines, Nat.sub_self, List.drop_zero, flatten_wholeLines]
    exact ⟨_, ⟨hfits, Nat.le_refl _, by rw [hrender, hall], fun _ _ hmore _ => hmore⟩, truncated,
      by rw [hall]⟩
  · obtain ⟨count, hlongest, harchive⟩ := longestFitting_of_eq_ok (fun _ => hrender _ _) h
    exact ⟨count, hlongest, true, harchive⟩

end Fitting

theorem forM_eq_ok {files : List DiagnosticFile} {scan : DiagnosticFile → Except BundleError Unit}
    (h : files.forM scan = .ok ()) (file : DiagnosticFile) (hfile : file ∈ files) :
    scan file = .ok () := by
  induction files with
  | nil => cases hfile
  | cons first files ih =>
    rw [List.forM_eq_forM, List.forM_cons] at h
    obtain ⟨⟨⟩, hfirst, hrest⟩ := bind_eq_ok.mp h
    rcases List.mem_cons.mp hfile with rfl | hfile
    · exact hfirst
    · exact ih hrest hfile

theorem exists_of_mem_diagnosticSnapshotFiles {snapshot : HealthSummary} {shape : List UInt8}
    {config : Option (BundleConfig × ParsedURL)} {file : DiagnosticFile}
    (h : file ∈ packages.diagnosticSnapshotFiles snapshot shape config) :
    ∃ name value, file = packages.marshalDiagnosticJSON name value := by
  simp only [BundlePackages.diagnosticSnapshotFiles, List.cons_append, List.mem_cons,
    List.mem_append, List.mem_map, List.not_mem_nil, or_false, Option.mem_toList,
    Option.map_eq_some_iff] at h
  rcases h with rfl | (⟨endpoint, -, rfl⟩ | rfl) | ⟨config, -, rfl⟩ <;> exact ⟨_, _, rfl⟩

def Configured (packages : BundlePackages) (config : Option BundleConfig)
    (password : List UInt8) : Prop :=
  ∃ settings ∈ config, ∃ url ∈ packages.parseURL settings.platformDatabaseURL,
    ∃ name, url.user = some (name, password)

structure BundleSafe (packages : BundlePackages) (config : Option BundleConfig)
    (archive : DiagnosticArchive) : Prop where
  secret : ∀ password, Configured packages config password → password ≠ [] →
    ¬ password <:+: archive.journal ∧ ∀ file ∈ archive.snapshotFiles, ¬ password <:+: file.content
  journal : ∀ marker ∈ forbiddenMarkers, ¬ marker <:+: toLower archive.journal
  files : ∀ file ∈ archive.snapshotFiles, ∃ value,
    Redacted packages file value ∧ Unmarked packages value
  manifest : ∃ value, Redacted packages archive.manifest value

/-- Packages for a concrete run: a `p` is written by its number, and nothing between the texts. -/
def terse : BundlePackages :=
  let escape := fun text : List UInt8 =>
    text.flatMap fun byte => if byte = 112 then ascii "\\u0070" else [byte]
  let marshal := fun value : Json => (value.texts fun _ => false).flatMap fun text =>
    quote :: (escape text ++ [quote])
  have written : ∀ value, Written escape (value.texts fun _ => false) (marshal value) := by
    intro value
    simp only [marshal]
    generalize value.texts (fun _ => false) = texts
    induction texts with
    | nil => exact .nil nofun
    | cons text texts ih => simpa using @Written.cons _ [] text _ _ nofun ih
  { escape := escape, marshal := marshal, marshalIndent := marshal, unmarshal := fun _ => none
    unmarshalEvent := fun _ => some (ascii "platform_health_summary")
    unmarshalSummary := fun _ => some ⟨[], .object [(ascii "status", text "OK")]⟩
    number := fun _ => ⟨[48], by decide +kernel⟩
    parseURL := fun _ => some ⟨some (ascii "monitor", ascii "s3cret"), [], [], [], [], []⟩
    marshal_written := written, marshalIndent_written := written, unmarshal_texts := nofun }

end DbsMonitor
