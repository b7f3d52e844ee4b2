import TlsIdentity.Catalogue
import TlsIdentity.Proofs.CanonicalNames
import TlsIdentity.Proofs.Configurations
import TlsIdentity.Proofs.LoadedOptions
import TlsIdentity.Proofs.PatternGrammar
import TlsIdentity.Proofs.RegistrationOrder
import TlsIdentity.Proofs.WrittenArguments

/-!
# From words to credentials

Options name files for texts of hosts; a profile is asked for a host and presents a credential. What lies
between is long: the words are read, the files are loaded, the credentials are registered over each other
under the patterns of their texts, and look-up tries three levels. `Options.pathsFor?` says without all this
which files a host gets, from the texts alone, and `words_resolve_as_given` that the credential in them is the
one that is found. At each level the last text that fits stands against the last registration of one pattern
(`rel_lastFor`).
-/

namespace TlsIdentity

/-! ## Which files a host gets -/

/-- The paths of the last argument whose host is a text that fits. -/
def lastPaths? (arguments : List IdentityArgument) (fits : String → Bool) : Option (String × String) :=
  (arguments.reverse.find? fun argument => fits argument.host).map (·.paths)

/-- Whether a text stands for the hosts below a name. -/
def HostPattern.isLevelText (text : String) : Bool :=
  (parent? (HostName.canonical text)).isSome

/-- The paths of the credential for a host: those of the last identity for the host's own name in any
    spelling; without one, of the last identity for a level that covers the host; without one, of the last
    identity for every host; without one, of the fallback. -/
def Options.pathsFor? (options : Options) (host : String) : Option (String × String) :=
  lastPaths? options.identities (fun text => HostName.canonical text = HostName.canonical host) <|>
  lastPaths? options.identities
    (fun text => HostPattern.isLevelText text && HostPattern.textCovers text host) <|>
  lastPaths? options.identities (fun text => HostName.canonical text = HostPattern.anyText) <|>
  options.fallbackPaths?

/-! ## Texts and patterns -/

namespace HostPattern

variable {text host name parent : String} {pattern : HostPattern}

/-- The pattern that a canonical name stands for if its labels are fit. -/
def named (name : String) : HostPattern :=
  if name = anyText then .any
  else match parent? name with
    | some parent => .below parent
    | none => .exact name

theorem toText_named (name : String) : (named name).toText = name := by
  unfold named
  split
  · next hany => exact hany.symm
  · cases hparent : parent? name with
    | none => rfl
    | some parent => exact (parent?_eq_some_iff.mp hparent).symm

/-- A text that stands for a pattern stands for the one that its canonical form names. -/
theorem eq_named_of_ofText? (h : ofText? text = some pattern) : pattern = named (HostName.canonical text) := by
  unfold ofText? at h
  unfold named
  dsimp only at h
  split at h
  · next hany =>
    rw [if_pos hany]
    exact (Option.some.inj h).symm
  · next hany =>
    rw [if_neg hany]
    cases hparent : parent? (HostName.canonical text) with
    | none | some parent =>
      rw [hparent] at h
      simp only at h
      split at h
      · exact (Option.some.inj h).symm
      · cases h

/-- Texts of one canonical form stand for one pattern, and only these. -/
theorem canonical_eq_iff_eq_named (h : ofText? text = some pattern) :
    HostName.canonical text = name ↔ pattern = named name := by
  have hown := eq_named_of_ofText? h
  constructor
  · rintro rfl
    exact hown
  · intro hpattern
    rw [← toText_named (HostName.canonical text), ← hown, hpattern, toText_named]

theorem isLevelText_iff (h : ofText? text = some pattern) :
    isLevelText text = true ↔ ∃ parent, pattern = .below parent := by
  have hstar : parent? anyText = none := by decide
  rw [eq_named_of_ofText? h, isLevelText, named]
  by_cases hany : HostName.canonical text = anyText
  · simp [hany, hstar]
  · rw [if_neg hany]
    cases parent? (HostName.canonical text) <;> simp

theorem afterFirstDot?_toText_below (parent : String) : afterFirstDot? ("*." ++ parent) = some parent := by
  simp [afterFirstDot?, Text.splitFirst?]

/-- The texts of the level that covers a host, if there is such a level. -/
theorem isLevelText_and_textCovers_iff (h : ofText? text = some pattern) :
    (isLevelText text && textCovers text host) = true ↔
      (afterFirstDot? (HostName.canonical host)).map below = some pattern := by
  have hcovers : textCovers text host = pattern.covers (HostName.canonical host) := by
    rw [textCovers, h]
  rw [Bool.and_eq_true, isLevelText_iff h, hcovers, Option.map_eq_some_iff]
  constructor
  · rintro ⟨⟨parent, rfl⟩, hlevel⟩
    exact ⟨parent, covers_below_iff.mp hlevel, rfl⟩
  · rintro ⟨parent, hparent, rfl⟩
    exact ⟨⟨parent, rfl⟩, covers_below_iff.mpr hparent⟩

end HostPattern

/-! ## Level by level -/

section

variable {engine : Engine} {files : FileSource} {backend : Backend} {arguments : List IdentityArgument}
  {entries : History Credential}

/-- The first argument that fits, from the end, stands against the first entry of the pattern. -/
theorem rel_lookup (h : List.Forall₂ (fun argument entry => argument.Loads engine files backend entry)
      arguments entries) {fits : String → Bool} {pattern? : Option HostPattern}
    (hfits : ∀ text own, HostPattern.ofText? text = some own → (fits text = true ↔ pattern? = some own)) :
    Option.Rel (files.Makes engine backend)
      ((arguments.find? fun argument => fits argument.host).map (·.paths))
      (pattern?.bind fun pattern => entries.lookup pattern) := by
  induction h with
  | nil => cases pattern? <;> exact .none
  | @cons argument entry arguments entries hentry hrest ih =>
    have hown := hfits argument.host entry.1 hentry.pattern
    cases hfirst : fits argument.host with
    | true =>
      have hlookup : (entry :: entries).lookup entry.1 = some entry.2 := by
        rw [List.lookup_cons, beq_self_eq_true]
      simp only [List.find?_cons, hfirst, hown.mp hfirst, Option.bind_some, hlookup]
      exact .some hentry.credential
    | false =>
      have hother : pattern? ≠ some entry.1 := by
        rw [Ne, ← hown, hfirst]
        exact Bool.false_ne_true
      have hskip : (pattern?.bind fun pattern => (entry :: entries).lookup pattern) =
          pattern?.bind fun pattern => entries.lookup pattern := by
        cases pattern? with
        | none => rfl
        | some pattern =>
          have hne : pattern ≠ entry.1 := fun heq => hother (congrArg some heq)
          rw [Option.bind_some, List.lookup_cons, beq_false_of_ne hne]
          rfl
      simp only [List.find?_cons, hfirst, hskip]
      exact ih

/-- **The last argument that fits stands against the last registration of the pattern**, where fitting texts
    are those that stand for it. -/
theorem rel_lastFor (h : List.Forall₂ (fun argument entry => argument.Loads engine files backend entry)
      arguments entries) {fits : String → Bool} (pattern? : Option HostPattern)
    (hfits : ∀ text own, HostPattern.ofText? text = some own → (fits text = true ↔ pattern? = some own)) :
    Option.Rel (files.Makes engine backend) (lastPaths? arguments fits)
      (pattern?.bind fun pattern => History.lastFor entries pattern) :=
  rel_lookup (List.forall₂_reverse_iff.mpr h) hfits

end

/-! ## Look-up -/

/-- The fallback of the options is registered first, for every host. -/
theorem Loaded.lastFor_history (loaded : Loaded) (pattern : HostPattern) :
    History.lastFor loaded.history pattern =
      (History.lastFor loaded.entries pattern <|> if pattern = .any then loaded.fallback else none) := by
  have hfirst : History.lastFor (loaded.fallback.toList.map fun credential => (.any, credential)) pattern =
      if pattern = .any then loaded.fallback else none := by
    cases loaded.fallback with
    | none => exact (ite_self _).symm
    | some credential =>
      show History.lastFor ([] ++ [(.any, credential)]) pattern = _
      rw [History.lastFor_snoc]
      rfl
  rw [← hfirst, Loaded.history, History.lastFor, List.reverse_append, List.lookup_append, History.lastFor,
    History.lastFor]
  cases loaded.entries.reverse.lookup pattern <;> rfl

namespace Options.Loads

variable {loaded : Loaded} {engine : Engine} {files : FileSource} {backend : Backend} {options : Options}

/-- A name with a star is not registered for a single host. -/
theorem lastFor_exact_eq_none (h : options.Loads engine files backend loaded) {name : String}
    (hstar : '*' ∈ name.toList) : History.lastFor loaded.entries (.exact name) = none := by
  rw [History.lastFor_eq_none_iff]
  intro hmem
  obtain ⟨entry, hentry, hname⟩ := List.mem_map.mp hmem
  obtain ⟨argument, hloads⟩ := exists_forall₂_iff.mp ⟨_, h.entries.flip⟩ entry hentry
  have hpattern := hloads.pattern
  rw [hname] at hpattern
  exact HostName.star_notMem_of_isPlain (HostPattern.ofText?_eq_some_exact_iff.mp hpattern).2 hstar

/-- Look-up may as well begin with the pattern that the host's own name would stand for: where this is not a
    single host, it is what look-up comes to next. -/
theorem resolve?_history (h : options.Loads engine files backend loaded) (host : String) :
    loaded.history.resolve? host =
      (History.lastFor loaded.entries (.named (HostName.canonical host)) <|>
        ((HostPattern.afterFirstDot? (HostName.canonical host)).map .below).bind
          (fun pattern => History.lastFor loaded.entries pattern) <|>
        History.lastFor loaded.entries .any <|> loaded.fallback) := by
  have hother : ∀ {pattern}, pattern ≠ .any →
      History.lastFor loaded.history pattern = History.lastFor loaded.entries pattern := by
    intro pattern hpattern
    rw [Loaded.lastFor_history, if_neg hpattern]
    cases History.lastFor loaded.entries pattern <;> rfl
  have hlevel : ∀ parent? : Option String,
      (parent?.bind fun parent => History.lastFor loaded.history (.below parent)) =
        (parent?.map .below).bind fun pattern => History.lastFor loaded.entries pattern := by
    intro parent?
    cases parent? with
    | none => rfl
    | some parent => exact hother (by nofun)
  rw [History.resolve?_eq, hother (by nofun), hlevel, Loaded.lastFor_history, if_pos rfl]
  generalize HostName.canonical host = name
  unfold HostPattern.named
  split
  · next hany =>
    have hexact : History.lastFor loaded.entries (.exact name) = none :=
      lastFor_exact_eq_none h (hany ▸ by decide)
    have hafter : HostPattern.afterFirstDot? HostPattern.anyText = none := by decide
    rw [hexact, hany, hafter]
    cases History.lastFor loaded.entries .any <;> rfl
  · cases hparent : HostPattern.parent? name with
    | none => rfl
    | some parent =>
      obtain rfl := HostPattern.parent?_eq_some_iff.mp hparent
      rw [lastFor_exact_eq_none h (by simp), HostPattern.afterFirstDot?_toText_below parent, Option.map_some,
        Option.bind_some]
      cases History.lastFor loaded.entries (.below parent) <;> rfl

/-- **What is found is what the options' files make.** -/
theorem rel_resolve? (h : options.Loads engine files backend loaded) (host : String) :
    Option.Rel (files.Makes engine backend) (options.pathsFor? host) (loaded.history.resolve? host) := by
  have hany : HostPattern.named HostPattern.anyText = .any := by decide
  rw [resolve?_history h]
  refine rel_orElse ?_ (rel_orElse ?_ (rel_orElse ?_ h.fallback))
  · refine rel_lastFor h.entries (some (.named (HostName.canonical host))) fun text own hown => ?_
    rw [decide_eq_true_eq, HostPattern.canonical_eq_iff_eq_named hown, Option.some.injEq, eq_comm]
  · exact rel_lastFor h.entries _ fun text own hown => HostPattern.isLevelText_and_textCovers_iff hown
  · refine rel_lastFor h.entries (some .any) fun text own hown => ?_
    rw [decide_eq_true_eq, HostPattern.canonical_eq_iff_eq_named hown, hany, Option.some.injEq, eq_comm]

end Options.Loads

/-! ## From words -/

/-- The host of an identity that was read is fit. -/
theorem IdentityArgument.exists_pattern_of_ofText {text : String} {argument : IdentityArgument}
    (h : ofText text = .ok argument) : ∃ pattern, HostPattern.ofText? argument.host = some pattern := by
  obtain ⟨pattern, hpattern⟩ := (isWellFormed_of_ofText h).1.fit
  exact ⟨pattern, HostPattern.ofText_eq_ok_iff.mp hpattern⟩

theorem Options.GivenBy.exists_pattern {options : Options} {values : List (ValueFlag × String)}
    (h : options.GivenBy values) :
    ∀ argument ∈ options.identities, ∃ pattern, HostPattern.ofText? argument.host = some pattern := by
  intro argument hargument
  have hmem := List.mem_map_of_mem (f := Except.ok (ε := IdentityArgumentError)) hargument
  rw [h.identities] at hmem
  obtain ⟨text, _, htext⟩ := List.mem_map.mp hmem
  exact IdentityArgument.exists_pattern_of_ofText htext

/-- **From words to credentials.** Let words be read to the end, as those of a server or of a client, by any
    reader that takes the values they give, and let a draft, otherwise of any state, have no identities. The files
    are whatever there is, and hold whatever their reader finds in them.

    * The options are what the words say: every path is the one value of its option, and the identities are
      what the values of theirs stand for, in the order of the words.
    * They can be applied exactly if all credentials and certificates that they name can be loaded.
    * A profile can be built of the draft to which they were applied exactly if the engine takes the draft's
      certificates and those that stand in the contents of the file for anchors, if one is named; and these are
      its anchors, the draft's first and then the file's in their order there. If there are none, the web's
      authorities are.
    * For every host the profile finds what the files make that the options have for the host, and nothing if
      they have none. All keys are loaded by the backend that the draft had. -/
theorem words_resolve_as_given {reader : WordReader} (hreader : reader.TakesValues) {role : Role}
    {words : List String} {parsed : ClientOptions} (hwords : reader.read role words = .ok parsed)
    (engine : Engine) (files : FileSource) {any : AnyDraft} (hempty : any.common.identities = .empty) :
    let options := parsed.common
    options.GivenBy (reader.given role words) ∧
    ((∃ next, (any.applyOptions engine files options).run.value = .ok next) ↔
      options.Loadable engine files (any.common.backend engine)) ∧
    ∀ next, (any.applyOptions engine files options).run.value = .ok next →
      ∃ certificates,
        (match options.anchorsPath with
        | some path => ∃ contents, files.read path = .ok contents ∧ files.certificates contents = .ok certificates
        | none => certificates = []) ∧
        ((∃ profile, (next.build engine).run.value = .ok profile) ↔
          ∀ certificate ∈ any.common.trusted ++ certificates, engine.checkAnchor certificate = .ok ()) ∧
        ∀ profile, (next.build engine).run.value = .ok profile →
          profile.anchors = anchorsOf (any.common.trusted ++ certificates) ∧
          ∀ host, Option.Rel (files.Makes engine (any.common.backend engine)) (options.pathsFor? host)
            (profile.find host).value := by
  intro options
  have hgiven : options.GivenBy (reader.given role words) := hreader.givenBy hwords
  refine ⟨hgiven, ?_, ?_⟩
  · rw [← Options.exists_loads_iff hgiven.exists_pattern]
    constructor
    · rintro ⟨next, hnext⟩
      obtain ⟨loaded, hloads, _⟩ := AnyDraft.applyOptions_eq_ok_iff.mp hnext
      exact ⟨loaded, hloads⟩
    · rintro ⟨loaded, hloads⟩
      exact ⟨_, AnyDraft.applyOptions_eq_ok_iff.mpr ⟨loaded, hloads, rfl⟩⟩
  · intro next hnext
    obtain ⟨loaded, hloads, rfl⟩ := AnyDraft.applyOptions_eq_ok_iff.mp hnext
    have htrusted : (any.withLoaded loaded).common.trusted = any.common.trusted ++ loaded.certificates := by
      rw [AnyDraft.common_withLoaded]
      rfl
    have hidentities : (any.withLoaded loaded).common.identities = .ofHistory loaded.history := by
      rw [AnyDraft.common_withLoaded, IdentityTable.ofHistory, ← hempty]
      rfl
    refine ⟨loaded.certificates, Options.loadAnchors_eq_ok_iff.mp hloads.certificates, ?_, ?_⟩
    · simp only [AnyDraft.build_eq_freeze, Draft.freeze_eq_ok_iff, htrusted, exists_and_left, exists_eq,
        and_true]
    · intro profile hprofile
      rw [AnyDraft.build_eq_freeze, Draft.freeze_eq_ok_iff] at hprofile
      obtain ⟨_, rfl⟩ := hprofile
      refine ⟨congrArg anchorsOf htrusted, fun host => ?_⟩
      have hfind : ((any.withLoaded loaded).common.frozen engine (any.withLoaded loaded).policy |>.find
          host).value = loaded.history.resolve? host := by
        rw [Profile.value_find, ← IdentityTable.find?_ofHistory, ← hidentities]
        rfl
      rw [hfind]
      exact hloads.rel_resolve? host

/-- The words of a server name a fallback, in two words and in one, a level twice, in two spellings, and every
    host. The level's last identity is found, and for other hosts the one that was named for every host. -/
theorem repeated_level_found_by_last_word :
    let engine := Catalogue.engine [⟨"own", ⟨[1]⟩, .ecdsa, [⟨.pkcs8, [2]⟩], [], "own", false, 0, 0⟩,
      ⟨"other", ⟨[3]⟩, .ecdsa, [⟨.pkcs8, [4]⟩], [], "other", false, 0, 0⟩]
    let own : Credential := ⟨none, [⟨[1]⟩], ⟨"own", some .ecdsa⟩⟩
    let other : Credential := ⟨none, [⟨[3]⟩], ⟨"other", some .ecdsa⟩⟩
    let files := Directory.source [("key", Text.encode (Pem.sectionText "PRIVATE KEY" ["Ag=="])),
      ("cert", Text.encode (Pem.sectionText "CERTIFICATE" ["AQ=="])),
      ("key2", Text.encode (Pem.sectionText "PRIVATE KEY" ["BA=="])),
      ("cert2", Text.encode (Pem.sectionText "CERTIFICATE" ["Aw=="]))]
    let words := ["--tls-sni-identity=*.B.com=key2,cert2", "--tls-key-path", "key",
      "--tls-sni-identity", "*.b.COM.=key,cert", "--tls-cert-path=cert", "--tls-sni-identity=*=key2,cert2"]
    ∃ parsed, OptionReader.words.read .server words = .ok parsed ∧
      ∃ next, ((AnyDraft.empty .server).applyOptions engine files parsed.common).run.value = .ok next ∧
        ∃ profile, (next.build engine).run.value = .ok profile ∧
          (profile.find "Y.b.com.").value = some own ∧ (profile.find "c.org").value = some other := by
  intro engine own other files words
  have hwords : OptionReader.words.read .server words = .ok
      { common :=
        { keyPath := some "key", certPath := some "cert",
          identities := [⟨"*.B.com", "key2", "cert2"⟩, ⟨"*.b.COM.", "key", "cert"⟩, ⟨"*", "key2", "cert2"⟩] } } := by
    decide +kernel
  have hown : files.Makes engine .standard ("key", "cert") own := by rfl
  have hother : files.Makes engine .standard ("key2", "cert2") other := by rfl
  obtain ⟨_, happly, hresolve⟩ := words_resolve_as_given OptionReader.takesValues_words hwords engine files
    (show (AnyDraft.empty .server).common.identities = .empty from rfl)
  obtain ⟨next, hnext⟩ := happly.mpr {
    paired := rfl
    credentials := by
      intro paths hpaths
      simp only [Options.credentialPaths, Options.fallbackPaths?, Option.bind_some, Option.map_some,
        Option.toList_some, List.map_cons, List.map_nil, List.cons_append, List.nil_append,
        IdentityArgument.paths, List.mem_cons, List.not_mem_nil, or_false] at hpaths
      rcases hpaths with rfl | rfl | rfl | rfl
      exacts [⟨own, hown⟩, ⟨other, hother⟩, ⟨own, hown⟩, ⟨other, hother⟩]
    certificates := ⟨[], rfl⟩ }
  obtain ⟨certificates, hcertificates, hbuild, hfound⟩ := hresolve next hnext
  cases hcertificates
  obtain ⟨profile, hprofile⟩ := hbuild.mpr fun _ hmem => absurd hmem List.not_mem_nil
  obtain ⟨_, hfind⟩ := hfound profile hprofile
  have hlevel := hfind "Y.b.com."
  have hevery := hfind "c.org"
  rw [show Options.pathsFor? _ "Y.b.com." = some ("key", "cert") by decide +kernel] at hlevel
  rw [show Options.pathsFor? _ "c.org" = some ("key2", "cert2") by decide +kernel] at hevery
  exact ⟨_, hwords, next, hnext, profile, hprofile, hown.eq_of_rel hlevel, hother.eq_of_rel hevery⟩

end TlsIdentity
