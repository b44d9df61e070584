import Mathlib.Data.List.Nodup
import DynamicFeeWallet.Config.Validation
import DynamicFeeWallet.Node.Failover

/-!
# Settings that were validated are used in full

Validation reads every URL of the settings, and so does the choice of endpoints, which leaves out what is no URL.
After validation there is nothing to leave out. What is wrong with a setting is said apart from the order in which
settings are looked through (`Settings.Offends`); what validation finds is one problem for each offending setting, in
the order of the settings (`Settings.map_setting_findings`). Of the reading of URLs it is used only that it depends on
nothing but the text.
-/

namespace DynamicFeeWallet

/-! ## What is wrong with a value -/

/-- The text is a URL of the web. -/
def IsWebUrl (text : String) : Prop := ∃ url, Url.parse text = .ok url ∧ (url.scheme = "http" ∨ url.scheme = "https")

namespace Problem

/-- A URL has a problem when it is none of the web. -/
theorem isSome_ofUrl? {text : String} : (ofUrl? text).isSome = true ↔ ¬IsWebUrl text := by
  unfold ofUrl? IsWebUrl
  cases Url.parse text with
  | error error => simp
  | ok url =>
    dsimp only
    split
    · simp_all
    · simp_all

/-- The main URL has a problem when it is blank, or is none of the web. -/
theorem isSome_ofRpcUrl? {text : String} :
    (ofRpcUrl? text).isSome = true ↔ Text.isAllBlank text = true ∨ ¬IsWebUrl text := by
  unfold ofRpcUrl?
  split
  · rename_i hblank
    simp [hblank]
  · rename_i hblank
    rw [isSome_ofUrl?]
    simp [hblank]

/-- A number has a problem when it is zero. -/
theorem isSome_ofNumber? {n : UInt64} : (ofNumber? n).isSome = true ↔ n = 0 := by
  unfold ofNumber?
  split <;> simp [*]

/-- The level of the log has a problem when it is none of the five. -/
theorem isSome_ofLogLevel? {level : String} :
    (ofLogLevel? level).isSome = true ↔ Text.lowerCase level ∉ ["trace", "debug", "info", "warn", "error"] := by
  rw [← List.contains_iff_mem]
  unfold ofLogLevel? logLevels
  cases ["trace", "debug", "info", "warn", "error"].contains (Text.lowerCase level) <;> simp

end Problem

/-! ## Paths -/

namespace SettingName

/-- The settings that there is one of each. -/
def single : List SettingName := [.rpcUrl, .chainId, .rpcTimeoutSecs, .confirmationPollSecs, .logLevel]

/-- A setting stands alone, or is one of the URLs to turn to. -/
theorem exists_place_or_mem_single (name : SettingName) : (∃ place, name = .failoverUrl place) ∨ name ∈ single := by
  cases name <;> simp [single]

theorem path_failoverUrl (place : Nat) : (failoverUrl place).path = "network.failover_urls[" ++ (place.repr ++ "]") :=
  String.append_assoc ..

theorem eq_of_repr_eq {n m : Nat} (h : n.repr = m.repr) : n = m := by
  have hdigits : Nat.toDigits 10 n = Nat.toDigits 10 m := String.ofList_injective h
  rw [← Nat.ofDigitChars_toDigits (b := 10) (n := n) (by decide) (by decide), hdigits,
    Nat.ofDigitChars_toDigits (by decide) (by decide)]

/-- The path of a failover URL is that of no other setting. -/
theorem path_failoverUrl_ne (place : Nat) {name : SettingName} (h : name ∈ single) :
    (failoverUrl place).path ≠ name.path := by
  have hfront : (failoverUrl place).path.toList.take 12 = "network.fail".toList := by
    rw [path_failoverUrl, String.toList_append, List.take_append_of_le_length (by decide)]
    rfl
  have hother : ∀ name ∈ single, name.path.toList.take 12 ≠ "network.fail".toList := by decide
  intro heq
  rw [heq] at hfront
  exact hother name h hfront

/-- Settings are told apart by their paths. -/
theorem path_injective : Function.Injective path := by
  intro a b h
  have hsingle : ∀ a ∈ single, ∀ b ∈ single, a.path = b.path → a = b := by decide
  rcases exists_place_or_mem_single a with ⟨place, rfl⟩ | ha
  · rcases exists_place_or_mem_single b with ⟨place', rfl⟩ | hb
    · rw [path_failoverUrl, path_failoverUrl, String.append_right_inj, String.append_left_inj] at h
      rw [eq_of_repr_eq h]
    · exact absurd h (path_failoverUrl_ne place hb)
  · rcases exists_place_or_mem_single b with ⟨place', rfl⟩ | hb
    · exact absurd h.symm (path_failoverUrl_ne place' ha)
    · exact hsingle a ha b hb h

end SettingName

/-! ## Settings that offend -/

namespace Settings

/-- All settings, in their order. -/
def names (s : Settings) : List SettingName :=
  [.rpcUrl] ++ (List.range s.network.failoverUrls.length).map .failoverUrl ++
    [.chainId, .rpcTimeoutSecs, .confirmationPollSecs, .logLevel]

/-- Something is wrong with a setting: a text that is blank or no URL of the web, a zero, or a level that there is
not, whatever its case. -/
def Offends (s : Settings) : SettingName → Prop
  | .rpcUrl => Text.isAllBlank s.network.rpcUrl = true ∨ ¬IsWebUrl s.network.rpcUrl
  | .failoverUrl place => ∃ text, s.network.failoverUrls[place]? = some text ∧ ¬IsWebUrl text
  | .chainId => s.network.chainId = 0
  | .rpcTimeoutSecs => s.network.rpcTimeoutSecs = 0
  | .confirmationPollSecs => s.network.confirmationPollSecs = 0
  | .logLevel => Text.lowerCase s.logLevel ∉ ["trace", "debug", "info", "warn", "error"]

/-- What is found wrong with a setting. -/
def problem? (s : Settings) : SettingName → Option Problem
  | .rpcUrl => Problem.ofRpcUrl? s.network.rpcUrl
  | .failoverUrl place => s.network.failoverUrls[place]?.bind Problem.ofUrl?
  | .chainId => Problem.ofNumber? s.network.chainId
  | .rpcTimeoutSecs => Problem.ofNumber? s.network.rpcTimeoutSecs
  | .confirmationPollSecs => Problem.ofNumber? s.network.confirmationPollSecs
  | .logLevel => Problem.ofLogLevel? s.logLevel

variable {s : Settings}

/-- A setting has a problem when it offends. -/
theorem isSome_problem? {name : SettingName} : (s.problem? name).isSome = true ↔ s.Offends name := by
  cases name with
  | rpcUrl => exact Problem.isSome_ofRpcUrl?
  | failoverUrl place =>
    have hfound : s.Offends (.failoverUrl place) ↔
        ∃ text, s.network.failoverUrls[place]? = some text ∧ ¬IsWebUrl text := Iff.rfl
    rw [hfound, problem?, Option.isSome_bind, Option.any_eq_true]
    simp only [Problem.isSome_ofUrl?]
  | chainId => exact Problem.isSome_ofNumber?
  | rpcTimeoutSecs => exact Problem.isSome_ofNumber?
  | confirmationPollSecs => exact Problem.isSome_ofNumber?
  | logLevel => exact Problem.isSome_ofLogLevel?

instance : DecidablePred s.Offends := fun _ => decidable_of_iff _ isSome_problem?

/-- No setting comes twice. -/
theorem nodup_names (s : Settings) : s.names.Nodup := by
  have hplaces : ((List.range s.network.failoverUrls.length).map SettingName.failoverUrl).Nodup :=
    List.nodup_range.map fun _ _ h => SettingName.failoverUrl.inj h
  simp [names, List.nodup_append, hplaces]

/-- The settings are looked through in their order. -/
theorem checks_eq (s : Settings) : s.checks = s.names.map fun name => (name, s.problem? name) := by
  have hchecks : s.checks = [(.rpcUrl, _)] ++
      s.network.failoverUrls.zipIdx.map (fun entry => (SettingName.failoverUrl entry.2, Problem.ofUrl? entry.1)) ++ _ :=
        rfl
  have hplaces : s.network.failoverUrls.zipIdx.map
      (fun entry => (SettingName.failoverUrl entry.2, Problem.ofUrl? entry.1)) =
      (List.range s.network.failoverUrls.length).map fun place =>
        (.failoverUrl place, s.problem? (.failoverUrl place)) := by
    refine List.ext_getElem (by simp) fun place hleft hright => ?_
    have hplace : place < s.network.failoverUrls.length := by simpa using hright
    simp [problem?, List.getElem?_eq_getElem hplace]
  rw [hchecks, hplaces, names]
  simp [problem?]

/-- One problem is found for each offending setting, in the order of the settings. -/
theorem map_setting_findings (s : Settings) : s.findings.map Finding.setting = s.names.filter s.Offends := by
  have hone (name : SettingName) : ((s.problem? name).map (Finding.mk name)).map Finding.setting =
      Option.guard (fun name => decide (s.Offends name)) name := by
    have hfound : (s.problem? name).isSome = true ↔ s.Offends name := isSome_problem?
    cases hproblem : s.problem? name with
    | none =>
      have hoffends : ¬s.Offends name := by simpa [hproblem] using hfound
      simp [Option.guard, hoffends]
    | some problem =>
      have hoffends : s.Offends name := by simpa [hproblem] using hfound
      simp [Option.guard, hoffends]
  rw [findings, checks_eq, List.filterMap_map, List.map_filterMap]
  exact (List.filterMap_congr fun name _ => hone name).trans (congrFun List.filterMap_eq_filter s.names)

/-- No path is told twice. -/
theorem nodup_path_findings (s : Settings) : (s.findings.map fun f => f.setting.path).Nodup := by
  have hsettings : (s.findings.map Finding.setting).Nodup := by
    rw [map_setting_findings]
    exact s.nodup_names.filter _
  have hpaths := hsettings.map SettingName.path_injective
  rw [List.map_map] at hpaths
  exact hpaths

/-- There is nothing wrong with settings when none offends. -/
theorem findings_eq_nil : s.findings = [] ↔ ∀ name ∈ s.names, ¬s.Offends name := by
  rw [← List.map_eq_nil_iff (f := Finding.setting), map_setting_findings, List.filter_eq_nil_iff]
  simp

/-- When no failover URL offends, each is a URL of the web, and so is that of the node. -/
theorem isWebUrl_of_not_offends (h : ∀ name ∈ s.names, ¬s.Offends name) :
    ∀ text ∈ s.network.rpcUrl :: s.network.failoverUrls, IsWebUrl text := by
  refine List.forall_mem_cons.mpr ⟨?_, fun text htext => ?_⟩
  · exact not_not.mp fun hweb => h .rpcUrl (by simp [names]) (Or.inr hweb)
  · obtain ⟨place, hlt, rfl⟩ := List.mem_iff_getElem.mp htext
    refine not_not.mp fun hweb => h (.failoverUrl place) (by simp [names, hlt]) ?_
    exact ⟨_, List.getElem?_eq_getElem hlt, hweb⟩

end Settings

/-! ## Endpoints -/

namespace Endpoints

/-- Texts that are URLs are all taken. -/
theorem map_ok_filterMap {texts : List String} (h : ∀ text ∈ texts, IsWebUrl text) :
    (texts.filterMap fun text => (Url.parse text).toOption).map Except.ok = texts.map Url.parse := by
  induction texts with
  | nil => rfl
  | cons text texts ih =>
    obtain ⟨⟨url, hurl, -⟩, hrest⟩ := List.forall_mem_cons.mp h
    rw [List.map_cons, ← ih hrest, hurl, List.filterMap_cons]
    simp [hurl, Except.toOption]

/-- Settings whose URLs are all URLs of the web name one endpoint with each, in their order. -/
theorem ofSettings_of_isWebUrl {s : NetworkSettings} (h : ∀ text ∈ s.rpcUrl :: s.failoverUrls, IsWebUrl text) :
    ∃ e, ofSettings s = .ok e ∧ e.all.map Except.ok = (s.rpcUrl :: s.failoverUrls).map Url.parse ∧
      ∀ url ∈ e.all, url.scheme = "http" ∨ url.scheme = "https" := by
  obtain ⟨⟨primary, hprimary, -⟩, hothers⟩ := List.forall_mem_cons.mp h
  have hall : (Endpoints.mk primary (s.failoverUrls.filterMap fun text => (Url.parse text).toOption)).all.map Except.ok =
      (s.rpcUrl :: s.failoverUrls).map Url.parse := by
    rw [all, List.map_cons, List.map_cons, map_ok_filterMap hothers, hprimary]
  refine ⟨_, by rw [ofSettings, hprimary], hall, fun url hurl => ?_⟩
  -- the endpoint is what one of the texts was read as
  have hread : Except.ok url ∈ (s.rpcUrl :: s.failoverUrls).map Url.parse := hall ▸ List.mem_map_of_mem hurl
  obtain ⟨text, htext, hparse⟩ := List.mem_map.mp hread
  obtain ⟨url', hparse', hscheme⟩ := h text htext
  cases hparse.symm.trans hparse'
  exact hscheme

end Endpoints

/-! ## Main statement -/

/-- Settings that are accepted are left as they are, none of them offends, and their URLs are the endpoints: the first
one is that of the node and the others follow in their order, none is left out, and each is of the web. All other
settings are refused with one finding for each setting that offends, in the order of the settings, and no path is told
twice. -/
theorem validate_cases (s : Settings) :
    match s.validate with
    | .ok accepted =>
      accepted = s ∧ (∀ name ∈ s.names, ¬s.Offends name) ∧
        ∃ e, Endpoints.ofSettings accepted.network = .ok e ∧
          e.all.map Except.ok = (accepted.network.rpcUrl :: accepted.network.failoverUrls).map Url.parse ∧
            ∀ url ∈ e.all, url.scheme = "http" ∨ url.scheme = "https"
    | .error error =>
      ∃ findings, error = .invalid findings ∧ findings ≠ [] ∧ findings.map Finding.setting = s.names.filter s.Offends ∧
        (findings.map fun f => f.setting.path).Nodup := by
  unfold Settings.validate
  cases hempty : s.findings.isEmpty with
  | true =>
    have hnone := Settings.findings_eq_nil.mp (List.isEmpty_iff.mp hempty)
    exact ⟨rfl, hnone, Endpoints.ofSettings_of_isWebUrl (Settings.isWebUrl_of_not_offends hnone)⟩
  | false =>
    have hsome : s.findings ≠ [] := List.isEmpty_eq_false_iff.mp hempty
    exact ⟨_, rfl, hsome, s.map_setting_findings, s.nodup_path_findings⟩

/-- The paths of all problems are told, those of URLs to turn to with their places. -/
example :
    ({ network := { rpcUrl := " ", failoverUrls := ["ftp://node", "http://node", "not a url"], chainId := 0 }
       logLevel := "loud" } : Settings).findings.map (fun f => f.setting.path) =
      ["network.rpc_url", "network.failover_urls[0]", "network.failover_urls[2]", "network.chain_id",
        "observability.log_level"] := by
  decide +kernel

end DynamicFeeWallet
