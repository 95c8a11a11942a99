import RsidFwUpdate.Stream
/-!
# A module's version in the device's version string

The device answers `QueryFirmwareVersion` with `NAME:VERSION` tokens joined by
`|` (`versionString`). `ExtractModuleFromVersion` splits the answer with
`std::getline` and keeps the first section in which `NAME:` occurs anywhere,
not only at its start.

- `extractModuleFromVersion_versionString`: the value read for `N` is the
  version of the first token whose name ends in `N`, or `"Unknown"`.
- `extractModuleFromVersion_exact`: when no other name ends in `N`, that is the
  version of the first token named `N`.
-/

namespace RsidFwUpdate

/-- `section.substr(section.find(":") + 1, npos)`: what follows the first `:`. Without one,
`find` gives `npos`, `npos + 1` wraps to `0`, and the whole section is kept. -/
def afterColon (sec : List Char) : List Char :=
  if ':' ∈ sec then sec.drop (sec.indexOf ':' + 1) else sec

/-- `ExtractModuleFromVersion`: `while (std::getline(version_stream, section, '|'))` returns
`afterColon` of the first section where `section.find(module_name) != npos`. -/
def extractModuleFromVersion (module_name full_version : List Char) : List Char :=
  match (getlines '|' full_version).find? (fun sec => module_name <:+: sec) with
  | some sec => afterColon sec
  | none => "Unknown".toList

def parseFirmwareVersion (full_version : List Char) : List Char :=
  extractModuleFromVersion "OPFW:".toList full_version

def parseRecognitionVersion (full_version : List Char) : List Char :=
  extractModuleFromVersion "RECOG:".toList full_version

theorem parseFirmwareVersion_eq (full_version : List Char) :
    parseFirmwareVersion full_version = extractModuleFromVersion ("OPFW".toList ++ [':']) full_version :=
  rfl

theorem parseRecognitionVersion_eq (full_version : List Char) :
    parseRecognitionVersion full_version =
      extractModuleFromVersion ("RECOG".toList ++ [':']) full_version :=
  rfl

/-! ## The wire format -/

/-- A token `NAME:VERSION`. -/
def tokenText (t : List Char × List Char) : List Char := t.1 ++ ':' :: t.2

/-- The device's version string: its tokens joined by `|`, as in `OPFW:1.2.3|RECOG:4.5.6`. -/
def versionString : List (List Char × List Char) → List Char
  | [] => []
  | [t] => tokenText t
  | t :: t' :: ts => tokenText t ++ '|' :: versionString (t' :: ts)

/-- Names and versions hold neither separator. -/
def WellFormed (tokens : List (List Char × List Char)) : Prop :=
  ∀ t ∈ tokens, '|' ∉ t.1 ∧ ':' ∉ t.1 ∧ '|' ∉ t.2 ∧ ':' ∉ t.2

/-- The version read for a name: the version of the first token whose name passes `matches`. -/
def firstVersion (named : List Char → Bool) (tokens : List (List Char × List Char)) :
    List Char :=
  ((tokens.find? fun t => named t.1).map (·.2)).getD "Unknown".toList

theorem getlines_versionString {tokens : List (List Char × List Char)} (h : WellFormed tokens) :
    getlines '|' (versionString tokens) = tokens.map tokenText := by
  induction tokens using versionString.induct with
  | case1 => rfl
  | case2 t =>
    obtain ⟨h1, -, h3, -⟩ := h t (List.mem_singleton_self t)
    exact getlines_of_not_mem (by simp [versionString, tokenText])
      (by simp [versionString, tokenText, h1, h3])
  | case3 t t' ts ih =>
    obtain ⟨h1, -, h3, -⟩ := h t (List.mem_cons_self _ _)
    rw [versionString, getlines_append_delim (by simp [tokenText, h1, h3]),
      ih fun x hx => h x (List.mem_cons_of_mem _ hx)]
    rfl

/-- `NAME:` occurs in a token exactly when the token's name ends in `NAME`. -/
theorem infix_tokenText_iff (N : List Char) {t : List Char × List Char} (h1 : ':' ∉ t.1)
    (h2 : ':' ∉ t.2) : N ++ [':'] <:+: tokenText t ↔ N <:+ t.1 := by
  constructor
  · rintro ⟨s, u, hsu⟩
    have e : t.1 ++ ':' :: t.2 = (s ++ N) ++ ':' :: u := by simpa [tokenText] using hsu.symm
    exact ⟨s, ((List.append_cons_inj_of_not_mem h1 h2).1 e).1.symm⟩
  · rintro ⟨s, hs⟩
    exact ⟨s, t.2, by simp [tokenText, ← hs]⟩

theorem afterColon_tokenText {t : List Char × List Char} (h : ':' ∉ t.1) :
    afterColon (tokenText t) = t.2 := by
  simp [afterColon, tokenText, List.indexOf_append_of_not_mem h]

theorem find?_tokenText (N : List Char) {tokens : List (List Char × List Char)}
    (h : WellFormed tokens) :
    (tokens.map tokenText).find? (fun s => N ++ [':'] <:+: s) =
      (tokens.find? fun t => N <:+ t.1).map tokenText := by
  induction tokens with
  | nil => rfl
  | cons t ts ih =>
    obtain ⟨-, h2, -, h4⟩ := h t (List.mem_cons_self _ _)
    rw [List.map_cons, List.find?_cons, List.find?_cons,
      ih fun x hx => h x (List.mem_cons_of_mem _ hx)]
    by_cases hs : N <:+ t.1 <;> simp [hs, infix_tokenText_iff N h2 h4]

/-- The version read for `N` is that of the first token whose name ends in `N`. -/
theorem extract_versionString (N : List Char) {tokens : List (List Char × List Char)}
    (h : WellFormed tokens) :
    extractModuleFromVersion (N ++ [':']) (versionString tokens) =
      firstVersion (fun name => N <:+ name) tokens := by
  rw [extractModuleFromVersion, getlines_versionString h, find?_tokenText N h, firstVersion]
  cases hf : tokens.find? fun t => N <:+ t.1 with
  | none => rfl
  | some t => exact afterColon_tokenText (h t (List.mem_of_find?_eq_some hf)).2.1

theorem firstVersion_congr {p q : List Char → Bool} {tokens : List (List Char × List Char)}
    (h : ∀ t ∈ tokens, p t.1 = q t.1) : firstVersion p tokens = firstVersion q tokens := by
  induction tokens with
  | nil => rfl
  | cons t ts ih =>
    simp only [firstVersion, List.find?_cons, h t (List.mem_cons_self _ _)] at ih ⊢
    cases q t.1
    · exact ih fun x hx => h x (List.mem_cons_of_mem _ hx)
    · rfl

/-- The value read for `N` is the version of the first token whose name ends in `N`, or
`"Unknown"`; `ParseFirmwareVersion` and `ParseRecognitionVersion` read `OPFW` and `RECOG` so. -/
theorem extractModuleFromVersion_versionString {tokens : List (List Char × List Char)}
    (h : WellFormed tokens) (N : List Char) :
    extractModuleFromVersion (N ++ [':']) (versionString tokens) =
        firstVersion (fun name => N <:+ name) tokens ∧
      parseFirmwareVersion (versionString tokens) =
        firstVersion (fun name => "OPFW".toList <:+ name) tokens ∧
      parseRecognitionVersion (versionString tokens) =
        firstVersion (fun name => "RECOG".toList <:+ name) tokens :=
  ⟨extract_versionString N h, by rw [parseFirmwareVersion_eq]; exact extract_versionString _ h,
    by rw [parseRecognitionVersion_eq]; exact extract_versionString _ h⟩

theorem extractModuleFromVersion_versionString_xopfw :
    WellFormed [("XOPFW".toList, "1".toList), ("OPFW".toList, "2".toList)] ∧
      extractModuleFromVersion ("OPFW".toList ++ [':'])
          (versionString [("XOPFW".toList, "1".toList), ("OPFW".toList, "2".toList)]) =
        firstVersion (fun name => "OPFW".toList <:+ name)
          [("XOPFW".toList, "1".toList), ("OPFW".toList, "2".toList)] ∧
      parseFirmwareVersion (versionString [("XOPFW".toList, "1".toList), ("OPFW".toList, "2".toList)]) =
        firstVersion (fun name => "OPFW".toList <:+ name)
          [("XOPFW".toList, "1".toList), ("OPFW".toList, "2".toList)] ∧
      parseRecognitionVersion
          (versionString [("XOPFW".toList, "1".toList), ("OPFW".toList, "2".toList)]) =
        firstVersion (fun name => "RECOG".toList <:+ name)
          [("XOPFW".toList, "1".toList), ("OPFW".toList, "2".toList)] :=
  have hw : WellFormed [("XOPFW".toList, "1".toList), ("OPFW".toList, "2".toList)] := by
    unfold WellFormed; decide
  ⟨hw, extractModuleFromVersion_versionString hw "OPFW".toList⟩

/-- A name ending in `OPFW` ahead of the `OPFW` token: `ParseFirmwareVersion` reads its version,
`1`, not the `OPFW` token's `2`. -/
theorem parseFirmwareVersion_suffix_name :
    parseFirmwareVersion (versionString [("XOPFW".toList, "1".toList), ("OPFW".toList, "2".toList)])
        = "1".toList ∧
      firstVersion (· = "OPFW".toList) [("XOPFW".toList, "1".toList), ("OPFW".toList, "2".toList)]
        = "2".toList := by
  decide

/-- When no other token's name ends in `N`, the value read for `N` is the version of the first
token named `N`. -/
theorem extractModuleFromVersion_exact {tokens : List (List Char × List Char)}
    (h : WellFormed tokens) (N : List Char) (hN : ∀ t ∈ tokens, N <:+ t.1 → t.1 = N) :
    extractModuleFromVersion (N ++ [':']) (versionString tokens) = firstVersion (· = N) tokens := by
  rw [extract_versionString N h]
  refine firstVersion_congr fun t ht => ?_
  by_cases hs : N <:+ t.1
  · simp [hs, hN t ht hs]
  · simp only [hs, decide_False, Bool.false_eq, decide_eq_false_iff_not]
    rintro rfl
    exact hs (List.suffix_refl _)

theorem extractModuleFromVersion_exact_opfw :
    WellFormed [("OPFW".toList, "1.2.3".toList), ("RECOG".toList, "4.5.6".toList)] ∧
      (∀ t ∈ [("OPFW".toList, "1.2.3".toList), ("RECOG".toList, "4.5.6".toList)],
        "OPFW".toList <:+ t.1 → t.1 = "OPFW".toList) ∧
      extractModuleFromVersion ("OPFW".toList ++ [':'])
          (versionString [("OPFW".toList, "1.2.3".toList), ("RECOG".toList, "4.5.6".toList)]) =
        firstVersion (· = "OPFW".toList) [("OPFW".toList, "1.2.3".toList), ("RECOG".toList, "4.5.6".toList)] :=
  have hw : WellFormed [("OPFW".toList, "1.2.3".toList), ("RECOG".toList, "4.5.6".toList)] := by
    unfold WellFormed; decide
  have hN : ∀ t ∈ [("OPFW".toList, "1.2.3".toList), ("RECOG".toList, "4.5.6".toList)],
      "OPFW".toList <:+ t.1 → t.1 = "OPFW".toList := by decide
  ⟨hw, hN, extractModuleFromVersion_exact hw _ hN⟩

end RsidFwUpdate
