import HubBridge.Proofs.AddressTexts
import HubBridge.Proofs.Padding
import HubBridge.Settings

/-!
# Where the hub is

Two variables say where the hub is. Each is read by itself: if it is not set it has its default, and else
it must be written as a port or as an IPv4 address. The settings are what the two give, and what is
refused is told with its variable.
-/

namespace HubBridge.Proofs

open Text Settings

/-- The port that the variable gives: the usual one, or the number that it writes. -/
inductive GivesPort : Option String → UInt16 → Prop
  | unset {value : Option String} (h : Unset value) : GivesPort value defaultPort
  | written {s : String} {port : UInt16} (h : Writes (trim s) port.toNat) : GivesPort (some s) port

/-- The host that the variable gives: the usual one, or the IPv4 address that it writes. -/
inductive GivesHost : Option String → IPv4 → Prop
  | unset {value : Option String} (h : Unset value) : GivesHost value defaultHost
  | written {s : String} {ip : IPv4} (h : trim s = ip.toText) : GivesHost (some s) ip

/-- The variable gives no name that would have to be looked up, but an address if it is set. -/
def Nameless (value : Option String) : Prop :=
  ∀ s ∈ value, isAllBlank s = true ∨ (∃ ip : IPv4, trim s = ip.toText) ∨ SixText (trim s).toList

/-- The variable holds the text with white space around it. -/
def Holds (value : Option String) (text : String) : Prop := ∃ padded ∈ value, Padded text padded

/-! ### One variable -/

lemma given_unset {value : Option String} (h : Unset value) : given value = none := by
  cases value with
  | none => rfl
  | some s => rw [given, Option.filter_some, unset_some.mp h]; rfl

lemma given_set {s : String} (h : isAllBlank s = false) : given (some s) = some s := by
  rw [given, Option.filter_some, h]
  rfl

/-- A variable with a text that is not blank has that text. -/
lemma given_text {s : String} (h : (trim s).toList ≠ []) : given (some s) = some s :=
  given_set (Bool.eq_false_iff.mpr (mt trim_eq_empty.mpr h))

lemma readNumeral_port {s : String} {n : Nat} :
    readNumeral UInt16.size s = .ok n ↔ Writes s n ∧ n < UInt16.size :=
  readNumeral_eq_ok (by decide)

lemma readPort_eq_ok {value : Option String} {port : UInt16} :
    readPort value = .ok port ↔ GivesPort value port := by
  unfold readPort
  constructor
  · intro h
    by_cases hset : Unset value
    · rw [given_unset hset] at h
      cases h
      exact .unset hset
    · obtain ⟨s, rfl, hblank⟩ := exists_of_set hset
      rw [given_set hblank] at h
      dsimp only at h
      split at h
      · rename_i n hread
        cases h
        obtain ⟨hwrites, hlt⟩ := readNumeral_port.mp hread
        refine .written ?_
        rwa [UInt16.toNat_ofNat_of_lt' hlt]
      · cases h
  · intro h
    cases h with
    | unset h => rw [given_unset h]
    | @written s port h =>
      rw [given_text (isWord_iff.mp (isWord_of_writes h)).1]
      dsimp only
      rw [readNumeral_port.mpr ⟨h, port.toNat_lt⟩]
      dsimp only
      rw [UInt16.ofNat_toNat]

lemma readPort_eq_error {value : Option String} (h : ∀ port, ¬GivesPort value port) :
    ∃ s fault, value = some s ∧ readNumeral UInt16.size (trim s) = .error fault ∧
      readPort value = .error (refuse portVariable s fault.message) := by
  obtain ⟨s, rfl, hblank⟩ := exists_of_set fun hunset => h _ (.unset hunset)
  cases hread : readPort (some s) with
  | ok port => exact absurd (readPort_eq_ok.mp hread) (h port)
  | error failure =>
    unfold readPort at hread
    rw [given_set hblank] at hread
    dsimp only at hread
    split at hread
    · cases hread
    · rename_i fault hfault
      cases hread
      exact ⟨s, fault, rfl, hfault, rfl⟩

variable {resolve : Resolver}

lemma addressesOf_ipv4 {host : String} {ip : IPv4} (h : host = ip.toText) :
    addressesOf resolve host = .ok [.ipv4 ip] := by
  unfold addressesOf
  dsimp only
  rw [ipv4_ofChars?_eq_some.mpr (congrArg String.toList h)]

lemma addressesOf_ipv6 {host : String} (hfour : ∀ ip : IPv4, host ≠ ip.toText)
    (hsix : SixText host.toList) : addressesOf resolve host = .ok [.ipv6] := by
  have hread : IPv4.ofChars? host.toList = none := by
    rw [Option.eq_none_iff_forall_ne_some]
    intro ip hip
    exact hfour ip (String.toList_inj.mp (ipv4_ofChars?_eq_some.mp hip))
  unfold addressesOf
  dsimp only
  rw [hread]
  dsimp only
  rw [if_pos (ipv6_isAddress_iff.mpr hsix)]

lemma readHost_of_gives {value : Option String} {ip : IPv4} (h : GivesHost value ip) :
    readHost resolve value = .ok ip := by
  unfold readHost
  cases h with
  | unset h => rw [given_unset h]
  | @written s ip h =>
    rw [given_text (h ▸ ipv4_ne_nil ip)]
    dsimp only
    rw [addressesOf_ipv4 h]
    rfl

variable (resolve) in
/-- An address that is not refused for its name is refused for its kind. -/
lemma readHost_eq_error {value : Option String} (hname : Nameless value)
    (h : ∀ ip, ¬GivesHost value ip) :
    ∃ s, value = some s ∧ SixText (trim s).toList ∧
      readHost resolve value = .error (refuse hostVariable s "no IPv4 address") := by
  obtain ⟨s, rfl, hblank⟩ := exists_of_set fun hunset => h _ (.unset hunset)
  have hfour : ∀ ip : IPv4, trim s ≠ ip.toText := fun ip hip => h ip (.written hip)
  have hsix : SixText (trim s).toList := by
    obtain hunset | ⟨ip, hip⟩ | hsix := hname s rfl
    · rw [hblank] at hunset
      cases hunset
    · exact absurd hip (hfour ip)
    · exact hsix
  refine ⟨s, rfl, hsix, ?_⟩
  unfold readHost
  rw [given_set hblank]
  dsimp only
  rw [addressesOf_ipv6 hfour hsix]
  rfl

variable (resolve) in
lemma readHost_eq_ok {value : Option String} (hname : Nameless value) {ip : IPv4} :
    readHost resolve value = .ok ip ↔ GivesHost value ip := by
  constructor
  · intro h
    by_cases hgives : ∃ other, GivesHost value other
    · obtain ⟨other, hgives⟩ := hgives
      rw [readHost_of_gives hgives] at h
      cases h
      exact hgives
    · have hnone : ∀ other, ¬GivesHost value other := fun other hother => hgives ⟨other, hother⟩
      obtain ⟨s, -, -, hrefused⟩ := readHost_eq_error resolve hname hnone
      rw [hrefused] at h
      cases h
  · exact readHost_of_gives

/-! ### Both variables -/

lemma Holds.port {value : Option String} {port : UInt16} (h : Holds value (toString port.toNat)) :
    GivesPort value port := by
  obtain ⟨padded, rfl, hpadded⟩ := h
  have hwrites := writes_toString port.toNat
  refine .written ?_
  rwa [hpadded.trim_eq, (bare_of_isWord (isWord_of_writes hwrites)).trim_eq]

lemma Holds.host {value : Option String} {ip : IPv4} (h : Holds value ip.toText) :
    GivesHost value ip := by
  obtain ⟨padded, rfl, hpadded⟩ := h
  exact .written (by rw [hpadded.trim_eq, (bare_of_isWord (isWord_ipv4 ip)).trim_eq])

/-- What comes of the two variables: each decides over its own half of the hub's address, and a bad port
is told whatever the host is. -/
structure ReadFrom (resolve : Resolver) (lookup : String → Option String) : Prop where
  accepted : (∃ settings, ofVariables resolve lookup = .ok settings) ↔
    (∃ port, GivesPort (lookup portVariable) port) ∧ ∃ ip, GivesHost (lookup hostVariable) ip
  settings : ∀ ip port, GivesHost (lookup hostVariable) ip → GivesPort (lookup portVariable) port →
    ofVariables resolve lookup = .ok { Settings.default with hub := ⟨ip, port⟩ }
  badPort : (∀ port, ¬GivesPort (lookup portVariable) port) →
    ∃ s fault, lookup portVariable = some s ∧
      readNumeral UInt16.size (trim s) = .error fault ∧
      ofVariables resolve lookup = .error (refuse portVariable s fault.message)
  badHost : ∀ port, GivesPort (lookup portVariable) port →
    (∀ ip, ¬GivesHost (lookup hostVariable) ip) →
    ∃ s, lookup hostVariable = some s ∧ SixText (trim s).toList ∧
      ofVariables resolve lookup = .error (refuse hostVariable s "no IPv4 address")
  /-- An address and a port that were printed are read back. -/
  printed : ∀ ip port, Holds (lookup hostVariable) ip.toText →
    Holds (lookup portVariable) (toString port.toNat) →
    ofVariables resolve lookup = .ok (forHub ⟨ip, port⟩)

lemma ofVariables_of_gives {lookup : String → Option String} {ip : IPv4} {port : UInt16}
    (hhost : GivesHost (lookup hostVariable) ip) (hport : GivesPort (lookup portVariable) port) :
    ofVariables resolve lookup = .ok (forHub ⟨ip, port⟩) := by
  unfold ofVariables
  rw [readPort_eq_ok.mpr hport, readHost_of_gives hhost]
  rfl

/-- The settings are read from the two variables just if each is unset or well written, and then they say
what it says. Nothing is looked up for that, so it does not matter what a look-up would give. -/
theorem settings_of_variables (resolve : Resolver) (lookup : String → Option String)
    (hname : Nameless (lookup hostVariable)) : ReadFrom resolve lookup where
  accepted := by
    constructor
    · rintro ⟨settings, h⟩
      unfold ofVariables at h
      cases hport : readPort (lookup portVariable) with
      | error failure =>
        rw [hport] at h
        cases h
      | ok port =>
        refine ⟨⟨port, readPort_eq_ok.mp hport⟩, ?_⟩
        cases hhost : readHost resolve (lookup hostVariable) with
        | error failure =>
          rw [hport, hhost] at h
          cases h
        | ok ip => exact ⟨ip, (readHost_eq_ok resolve hname).mp hhost⟩
    · rintro ⟨⟨port, hport⟩, ip, hhost⟩
      exact ⟨_, ofVariables_of_gives hhost hport⟩
  settings ip port hhost hport := ofVariables_of_gives hhost hport
  badPort h := by
    obtain ⟨s, fault, hs, hfault, hread⟩ := readPort_eq_error h
    refine ⟨s, fault, hs, hfault, ?_⟩
    unfold ofVariables
    rw [hread]
    rfl
  badHost port hport h := by
    obtain ⟨s, hs, hsix, hread⟩ := readHost_eq_error resolve hname h
    refine ⟨s, hs, hsix, ?_⟩
    unfold ofVariables
    rw [readPort_eq_ok.mpr hport, hread]
    rfl
  printed ip port hhost hport := ofVariables_of_gives hhost.host hport.port

/-- The two variables with these texts, and no other variable. -/
def hubAt (host port : Option String) (name : String) : Option String :=
  if name = hostVariable then host else if name = portVariable then port else none

/-- A resolver that finds no host. -/
def unknown : Resolver := fun _ => .error "Name or service not known"

/-- A number may have a plus sign and zeros in front, and a bad port hides a bad host. -/
theorem settings_of_variables_odd :
    ofVariables unknown (hubAt (some "\u3000192.168.0.1\t") (some " +004242\n")) =
        .ok { Settings.default with hub := ⟨⟨192, 168, 0, 1⟩, 4242⟩ } ∧
      ofVariables unknown (hubAt none (some "0")) =
        .ok { Settings.default with hub := ⟨Settings.default.hub.host, 0⟩ } ∧
      (∃ s fault, some " 65536" = some s ∧ readNumeral UInt16.size (trim s) = .error fault ∧
        ofVariables unknown (hubAt (some "fe80::1") (some " 65536")) =
          .error (refuse portVariable s fault.message)) ∧
      ∃ s, some "fe80::1" = some s ∧ SixText (trim s).toList ∧
        ofVariables unknown (hubAt (some "fe80::1") none) =
          .error (refuse hostVariable s "no IPv4 address") := by
  have hsix : SixText (trim "fe80::1").toList := ipv6_isAddress_iff.mp (by decide)
  have hsixth : Nameless (some "fe80::1") := by
    rintro _ ⟨⟩
    exact .inr (.inr hsix)
  have hfour : trim "\u3000192.168.0.1\t" = IPv4.toText ⟨192, 168, 0, 1⟩ := by decide
  have hlarge : ∀ port, ¬GivesPort (some " 65536") port := by
    intro port h
    have hread := readPort_eq_ok.mpr h
    cases hread
  have hnone : ∀ ip, ¬GivesHost (some "fe80::1") ip := by
    intro ip h
    have hread := (readHost_eq_ok unknown hsixth).mpr h
    cases hread
  have hport : Writes (trim " +004242\n") (4242 : UInt16).toNat :=
    (readNumeral_port.mp (by rfl)).1
  refine ⟨?_, ?_, ?_, ?_⟩
  · refine (settings_of_variables unknown _ ?_).settings _ _ (.written hfour) (.written hport)
    rintro _ ⟨⟩
    exact .inr (.inl ⟨_, hfour⟩)
  · refine (settings_of_variables unknown _ ?_).settings _ _ (.unset ?_) (.written ?_)
    · rintro _ ⟨⟩
    · rintro _ ⟨⟩
    · exact (readNumeral_port.mp (by rfl)).1
  · exact (settings_of_variables unknown (hubAt (some "fe80::1") (some " 65536")) hsixth).badPort
      hlarge
  · refine (settings_of_variables unknown (hubAt (some "fe80::1") none) hsixth).badHost _ (.unset ?_)
      hnone
    rintro _ ⟨⟩

end HubBridge.Proofs
