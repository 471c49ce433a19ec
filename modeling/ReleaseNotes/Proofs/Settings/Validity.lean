import ReleaseNotes.Proofs.Number.Integers
import ReleaseNotes.Proofs.Settings.Precedence

namespace ReleaseNotes.Settings

/-!
Which settings are what they are declared to be. What is said about a key is checked, with two gaps:
the token is not one of the keys that have to be texts, and nan is not at most zero.
-/

/-- What is declared of the token and of the timeout. The other settings are texts and paths by their
types. -/
structure IsValid (settings : Settings) : Prop where
  token : settings.token = .null ∨ ∃ text, settings.token = .string text
  timeout : settings.timeout.IsPositive

/-- What may be said about a key: a positive number about the timeout, a text about any other. -/
def Fits (said : Option Json) : Key → Prop
  | .requestTimeout =>
      IsUnset said ∨ (∃ value, said = some (.int value) ∧ 0 < value) ∨
        ∃ value, said = some (.float value) ∧ value.IsPositive
  | _ => IsTextual said

theorem not_fits_nan : ¬ Fits (some (.float .nan)) .requestTimeout := by
  rintro ((h | h) | ⟨value, h, hpos⟩ | ⟨value, h, hpos⟩)
  · cases h
  · cases h
  · cases h
  · cases h
    exact hpos

namespace Normalises

variable {workspace : Path} {said : Key → Option Json} {settings : Settings}

/-- About the timeout a positive number is said, or else nan, which no check refuses. -/
theorem timeout_fits_or (h : Normalises workspace said settings) :
    Fits (said .requestTimeout) .requestTimeout ∧ settings.timeout.IsPositive ∨
      said .requestTimeout = some (.float .nan) ∧ settings.timeout = .nan := by
  obtain ⟨hunset, hdefault⟩ | ⟨value, hsaid, hpos, hround⟩ | ⟨hsaid, hpos⟩ := h.timeout
  · rw [hdefault]
    exact .inl ⟨.inl hunset, Double.isPositive_iff.mpr ⟨by decide, by decide⟩⟩
  · exact .inl ⟨.inr (.inl ⟨value, hsaid, hpos⟩), Double.isPositive_of_ofInt? hpos hround⟩
  · by_cases hnan : settings.timeout = .nan
    · exact .inr ⟨by rw [hsaid, hnan], hnan⟩
    · have hpositive := Double.isPositive_iff.mpr ⟨hpos, hnan⟩
      exact .inl ⟨.inr (.inr ⟨_, hsaid, hpositive⟩), hpositive⟩

theorem timeout_isPositive_iff (h : Normalises workspace said settings) :
    settings.timeout.IsPositive ↔ said .requestTimeout ≠ some (.float .nan) := by
  obtain ⟨hfits, hpos⟩ | ⟨hsaid, hnan⟩ := h.timeout_fits_or
  · refine iff_of_true hpos fun hsaid => not_fits_nan ?_
    rwa [hsaid] at hfits
  · refine iff_of_false ?_ (not_not_intro hsaid)
    rw [hnan]
    exact id

theorem token_iff (h : Normalises workspace said settings) :
    (settings.token = .null ∨ ∃ text, settings.token = .string text) ↔
      IsTextual (said .token) := by
  obtain ⟨hunset, hnull⟩ | hsaid := h.token
  · exact iff_of_true (.inl hnull) (.inl hunset)
  · rw [hsaid]
    unfold IsTextual IsUnset
    simp

/-- Nothing wrong is said about any key, the two gaps apart. -/
theorem fits_or (h : Normalises workspace said settings) (key : Key) :
    Fits (said key) key ∨ key = .token ∨
      key = .requestTimeout ∧ said key = some (.float .nan) := by
  cases key with
  | token => exact .inr (.inl rfl)
  | requestTimeout =>
      obtain ⟨hfits, -⟩ | ⟨hsaid, -⟩ := h.timeout_fits_or
      · exact .inl hfits
      · exact .inr (.inr ⟨rfl, hsaid⟩)
  | commitTypes => exact .inl (h.isTextual _ (by decide))
  | templatePath => exact .inl (h.isTextual _ (by decide))
  | changelogPath => exact .inl (h.isTextual _ (by decide))
  | repository => exact .inl (h.isTextual _ (by decide))
  | apiUrl => exact .inl (h.isTextual _ (by decide))

theorem isValid_iff (h : Normalises workspace said settings) :
    settings.IsValid ↔ IsTextual (said .token) ∧ said .requestTimeout ≠ some (.float .nan) := by
  rw [← h.token_iff, ← h.timeout_isPositive_iff]
  constructor
  · intro hvalid
    exact ⟨hvalid.token, hvalid.timeout⟩
  · intro ⟨htoken, htimeout⟩
    exact ⟨htoken, htimeout⟩

theorem isValid_iff_fits (h : Normalises workspace said settings) :
    settings.IsValid ↔ ∀ key, Fits (said key) key := by
  rw [h.isValid_iff]
  constructor
  · rintro ⟨htoken, hnan⟩ key
    obtain hfits | rfl | ⟨rfl, hsaid⟩ := h.fits_or key
    · exact hfits
    · exact htoken
    · exact absurd hsaid hnan
  · intro hfits
    refine ⟨hfits .token, fun hsaid => not_fits_nan ?_⟩
    rw [← hsaid]
    exact hfits .requestTimeout

end Normalises

/-- Settings that are loaded are valid exactly if what counts for every key is what the key may hold.
That is so of every key but the token, and nan apart, so that only these two can be wrong. -/
theorem isValid_loaded_iff {request : Request} {tree : FileTree} {settings : Settings}
    (hload : request.load tree = .ok settings) :
    (∃ members, FileSays tree (request.workspaceIn tree) members) ∧
      ∀ members, FileSays tree (request.workspaceIn tree) members →
        let said := winner? members request.environment request.overrides
        (settings.IsValid ↔ ∀ key, Fits (said key) key) ∧
          (∀ key, Fits (said key) key ∨ key = .token ∨
            key = .requestTimeout ∧ said key = some (.float .nan)) ∧
          (settings.IsValid ↔
            IsTextual (said .token) ∧ said .requestTimeout ≠ some (.float .nan)) := by
  constructor
  · rw [exists_fileSays_iff]
    cases hfields : fileFields tree (request.workspaceIn tree) with
    | error error =>
        simp only [Request.load, hfields] at hload
        cases hload
    | ok fields => exact ⟨fields, rfl⟩
  · intro members hfile said
    have hsettings := (Request.load_eq_ok_iff hfile).mp hload
    exact ⟨hsettings.isValid_iff_fits, hsettings.fits_or, hsettings.isValid_iff⟩

/-- A token from the environment and a timeout of five seconds, with no configuration file. -/
theorem isValid_loaded_iff_five_seconds :
    let request : Request :=
      ⟨none, [("GITHUB_TOKEN".text, "t".text)], [("request_timeout".text, .int 5)]⟩
    ∃ settings, request.load ⟨[], [], by decide⟩ = .ok settings ∧ settings.IsValid := by
  intro request
  have hload : request.load ⟨[], [], by decide⟩ =
      .ok ⟨⟨1, []⟩, defaultCommitTypes, none, ⟨1, [defaultChangelogPath]⟩, none,
        .string "t".text, defaultApiUrl, .finite false 5629499534213120 (-50)⟩ := rfl
  refine ⟨_, hload, ?_⟩
  obtain ⟨-, hloaded⟩ := isValid_loaded_iff hload
  obtain ⟨-, -, hvalid⟩ := hloaded [] (.missing rfl)
  apply hvalid.mpr
  constructor
  · exact .inr ⟨"t".text, rfl⟩
  · intro hnan
    cases hnan

/-- Where nothing but the token and the timeout is said, the other settings are the defaults. -/
theorem normalises_of_unset {workspace : Path} {said : Key → Option Json} {token : Json}
    {timeout : Double} (hunset : ∀ key ∈ Key.texts, IsUnset (said key))
    (htoken : IsUnset (said .token) ∧ token = .null ∨ said .token = some token)
    (htimeout : IsUnset (said .requestTimeout) ∧ timeout = defaultTimeout ∨
      said .requestTimeout = some (.float timeout) ∧ timeout.isAtMostZero = false) :
    Normalises workspace said
      ⟨workspace, defaultCommitTypes, none, workspace.join (.ofText defaultChangelogPath), none,
        token, defaultApiUrl, timeout⟩ where
  place := rfl
  commitTypes := .inl ⟨hunset _ (by decide), rfl⟩
  templatePath := .inl ⟨.inl (hunset _ (by decide)), rfl⟩
  changelogPath := .inl ⟨.inl (hunset _ (by decide)), isPlaced_iff.mpr rfl⟩
  repository := .inl ⟨hunset _ (by decide), rfl⟩
  token := htoken
  apiUrl := .inl ⟨.inl (hunset _ (by decide)), rfl⟩
  timeout := htimeout.imp_right .inr

/-- A number gets through as the token, and nan as the timeout. -/
theorem not_isValid_loaded :
    let holding (document : String) : FileTree :=
      ⟨[([fileName], .file (Utf8.encodeChars document.toList))], [], by decide⟩
    let request : Request := ⟨none, [], []⟩
    (∃ settings, request.load (holding "\x7b\"github_token\": 5\x7d") = .ok settings ∧
        ¬ settings.IsValid) ∧
      ∃ settings, request.load (holding "\x7b\"request_timeout\": NaN\x7d") = .ok settings ∧
        ¬ settings.IsValid := by
  intro holding request
  constructor
  · have hmember : Json.ReadsMember (Json.depthLimit - 1) 38 ⟨1, "\"github_token\": 5\x7d".text⟩
        ("github_token".text, .int 5) ⟨18, "\x7d".text⟩ :=
      ⟨_, _, ⟨15, ": 5\x7d".text⟩, rfl, rfl, rfl, rfl⟩
    have hobject : Json.IsObjectOf "\x7b\"github_token\": 5\x7d".text
        [("github_token".text, .int 5)] :=
      .members ⟨by decide, _, rfl, rfl⟩ (.last hmember rfl) rfl
    have hunset : ∀ key ∈ Key.texts,
        IsUnset (winner? [("github_token".text, .int 5)] [] [] key) := by
      intro key hkey
      cases key <;> first | exact .inl rfl | exact absurd hkey (by decide)
    have hsettings := @normalises_of_unset ⟨1, []⟩ _ (.int 5) defaultTimeout hunset
      (.inr rfl) (.inl ⟨.inl rfl, rfl⟩)
    refine ⟨_, (Request.load_eq_ok_iff (.written rfl rfl hobject)).mpr hsettings, ?_⟩
    intro hvalid
    obtain hnull | ⟨text, htext⟩ := hvalid.token
    · cases hnull
    · cases htext
  · have hmember : Json.ReadsMember (Json.depthLimit - 1) 48 ⟨1, "\"request_timeout\": NaN\x7d".text⟩
        ("request_timeout".text, .float .nan) ⟨23, "\x7d".text⟩ :=
      ⟨_, _, ⟨18, ": NaN\x7d".text⟩, rfl, rfl, rfl, rfl⟩
    have hobject : Json.IsObjectOf "\x7b\"request_timeout\": NaN\x7d".text
        [("request_timeout".text, .float .nan)] :=
      .members ⟨by decide, _, rfl, rfl⟩ (.last hmember rfl) rfl
    have hunset : ∀ key ∈ Key.texts,
        IsUnset (winner? [("request_timeout".text, .float .nan)] [] [] key) := by
      intro key hkey
      cases key <;> first | exact .inl rfl | exact absurd hkey (by decide)
    have hsettings := @normalises_of_unset ⟨1, []⟩ _ .null .nan hunset
      (.inl ⟨.inl rfl, rfl⟩) (.inr ⟨rfl, rfl⟩)
    refine ⟨_, (Request.load_eq_ok_iff (.written rfl rfl hobject)).mpr hsettings, ?_⟩
    exact fun hvalid => hvalid.timeout

end ReleaseNotes.Settings
