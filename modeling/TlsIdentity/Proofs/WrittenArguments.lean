import TlsIdentity.Proofs.GivenValues

/-!
# Arguments read and written

An identity argument is read by two splits, at the first `=` and at the first comma after it. Which texts are
read, and as what, can be told without a split: those that are a well-formed argument, written out. Both ways rest
on one fact, that a text splits in one way only into a part without the separator and a part after it. So a host
must not hold `=`, nor the path of a key a comma, and wherever else the two stand they are kept: an argument and
its text determine each other (`eq_of_toText_eq`), and words that were read can be written again.
-/

namespace TlsIdentity

namespace IdentityArgument

variable {text : String} {argument other : IdentityArgument}

/-! ## The grammar -/

/-- The parts of the argument can be told apart when it is written. -/
structure IsSeparable (argument : IdentityArgument) : Prop where
  /-- The host goes up to the first `=`. -/
  equals_notMem : '=' ∉ argument.host.toList
  /-- The path of the key goes up to the first comma after it. -/
  comma_notMem : ',' ∉ argument.keyPath.toList

/-- The argument is one that words can give. -/
structure IsWellFormed (argument : IdentityArgument) : Prop extends IsSeparable argument where
  keyPath_ne : argument.keyPath ≠ ""
  certPath_ne : argument.certPath ≠ ""
  /-- The host stands for a pattern, in any spelling. -/
  fit : ∃ pattern, HostPattern.ofText argument.host = .ok pattern

/-! ## Writing -/

theorem toList_toText (argument : IdentityArgument) :
    argument.toText.toList =
      argument.host.toList ++ '=' :: (argument.keyPath.toList ++ ',' :: argument.certPath.toList) := by
  simp [toText]

theorem splitFirst?_toText (h : argument.IsSeparable) :
    Text.splitFirst? '=' argument.toText.toList =
      some (argument.host.toList, argument.keyPath.toList ++ ',' :: argument.certPath.toList) :=
  Text.splitFirst?_eq_some_iff.mpr ⟨argument.toList_toText, h.equals_notMem⟩

theorem splitFirst?_paths (h : argument.IsSeparable) :
    Text.splitFirst? ',' (argument.keyPath.toList ++ ',' :: argument.certPath.toList) =
      some (argument.keyPath.toList, argument.certPath.toList) :=
  Text.splitFirst?_eq_some_iff.mpr ⟨rfl, h.comma_notMem⟩

/-- **Arguments that are written alike are equal**, whatever their hosts and paths stand for. -/
theorem eq_of_toText_eq (h : argument.IsSeparable) (hother : other.IsSeparable)
    (htext : argument.toText = other.toText) : argument = other := by
  have hsplit := splitFirst?_toText h
  rw [htext, splitFirst?_toText hother] at hsplit
  obtain ⟨hhost, hpaths⟩ := Prod.mk.inj (Option.some.inj hsplit)
  have hsplit := splitFirst?_paths h
  rw [← hpaths, splitFirst?_paths hother] at hsplit
  obtain ⟨hkey, hcert⟩ := Prod.mk.inj (Option.some.inj hsplit)
  cases argument
  cases other
  cases String.toList_inj.mp hhost
  cases String.toList_inj.mp hkey
  cases String.toList_inj.mp hcert
  rfl

/-! ## Reading -/

/-- What is well-formed is read as it was written. -/
theorem ofText_toText (h : argument.IsWellFormed) : ofText argument.toText = .ok argument := by
  have hkey : argument.keyPath.toList ≠ [] := fun hnil => h.keyPath_ne (String.toList_eq_nil_iff.mp hnil)
  have hcert : argument.certPath.toList ≠ [] := fun hnil => h.certPath_ne (String.toList_eq_nil_iff.mp hnil)
  obtain ⟨pattern, hpattern⟩ := h.fit
  unfold ofText
  simp only [splitFirst?_toText h.toIsSeparable, splitFirst?_paths h.toIsSeparable,
    if_neg (not_or.mpr ⟨hkey, hcert⟩), String.ofList_toList, hpattern]

/-- What is read is well-formed, and the text is its own. -/
theorem isWellFormed_of_ofText (h : ofText text = .ok argument) :
    argument.IsWellFormed ∧ argument.toText = text := by
  unfold ofText at h
  cases hhost : Text.splitFirst? '=' text.toList with
  | none =>
    rw [hhost] at h
    cases h
  | some parts =>
    obtain ⟨host, paths⟩ := parts
    cases hpaths : Text.splitFirst? ',' paths with
    | none =>
      simp only [hhost, hpaths] at h
      cases h
    | some pair =>
      obtain ⟨keyPath, certPath⟩ := pair
      simp only [hhost, hpaths] at h
      split at h
      · cases h
      · next hne =>
        obtain ⟨hkey, hcert⟩ := not_or.mp hne
        cases hfit : HostPattern.ofText (String.ofList host) with
        | error error =>
          rw [hfit] at h
          cases h
        | ok pattern =>
          rw [hfit] at h
          cases h
          obtain ⟨htext, hequals⟩ := Text.splitFirst?_eq_some_iff.mp hhost
          obtain ⟨rfl, hcomma⟩ := Text.splitFirst?_eq_some_iff.mp hpaths
          refine ⟨⟨⟨?_, ?_⟩, ?_, ?_, pattern, hfit⟩, ?_⟩
          · rw [String.toList_ofList]
            exact hequals
          · rw [String.toList_ofList]
            exact hcomma
          · exact fun hempty => hkey (String.ofList_eq_empty_iff.mp hempty)
          · exact fun hempty => hcert (String.ofList_eq_empty_iff.mp hempty)
          · rw [← String.toList_inj, toList_toText, htext]
            simp only [String.toList_ofList]

/-- **A text is read as an argument exactly if it is that argument, written, and the argument is well-formed.** -/
theorem ofText_eq_ok_iff : ofText text = .ok argument ↔ argument.IsWellFormed ∧ argument.toText = text := by
  constructor
  · exact isWellFormed_of_ofText
  · rintro ⟨h, rfl⟩
    exact ofText_toText h

/-- Texts that were read can be written again. -/
theorem map_toText_of_map_ofText {arguments : List IdentityArgument} {texts : List String}
    (h : arguments.map Except.ok = texts.map ofText) : arguments.map toText = texts := by
  induction arguments generalizing texts with
  | nil =>
    cases texts with
    | nil => rfl
    | cons text others => cases h
  | cons argument rest ih =>
    cases texts with
    | nil => cases h
    | cons text others =>
      obtain ⟨hfirst, hrest⟩ := List.cons.inj h
      rw [List.map_cons, ih hrest, (isWellFormed_of_ofText hfirst.symm).2]

/-- **Arguments are read as they are written.**

    * A text is read as an argument exactly if it is the argument written out, and the host holds no `=` and
      stands for a pattern, the path of the key holds no comma, and neither path is empty. The host is kept in its
      spelling; commas in it, `=` in the paths and commas in the path of the certificates are kept too.
    * So a text is read exactly if it is one well-formed argument, written, and it is never more than one: even
      where hosts and paths are of any kind, arguments whose parts can be told apart are written alike only if
      they are equal.
    * What was read is written as the text that it was read from, and is read from there again.
    * The identities of options that were read from words are, written, the values that the words give. -/
theorem arguments_read_as_written :
    (∀ text host keyPath certPath, ofText text = .ok ⟨host, keyPath, certPath⟩ ↔
      text = host ++ "=" ++ keyPath ++ "," ++ certPath ∧ '=' ∉ host.toList ∧ ',' ∉ keyPath.toList ∧
        keyPath ≠ "" ∧ certPath ≠ "" ∧ ∃ pattern, HostPattern.ofText host = .ok pattern) ∧
    (∀ text, (∃ argument, ofText text = .ok argument) ↔
      ∃! argument : IdentityArgument, argument.IsWellFormed ∧ argument.toText = text) ∧
    (∀ argument other : IdentityArgument, argument.IsSeparable → other.IsSeparable →
      (argument.toText = other.toText ↔ argument = other)) ∧
    (∀ text argument, ofText text = .ok argument →
      argument.toText = text ∧ ofText argument.toText = .ok argument) ∧
    ∀ role words parsed, OptionReader.readWords role {} words = .ok parsed →
      parsed.common.identities.map toText = valuesOf .identity (givenValues role words) := by
  refine ⟨?_, ?_, ?_, ?_, ?_⟩
  · intro text host keyPath certPath
    rw [ofText_eq_ok_iff]
    constructor
    · rintro ⟨⟨⟨hequals, hcomma⟩, hkey, hcert, hfit⟩, htext⟩
      exact ⟨htext.symm, hequals, hcomma, hkey, hcert, hfit⟩
    · rintro ⟨htext, hequals, hcomma, hkey, hcert, hfit⟩
      exact ⟨⟨⟨hequals, hcomma⟩, hkey, hcert, hfit⟩, htext.symm⟩
  · intro text
    simp only [ofText_eq_ok_iff]
    constructor
    · rintro ⟨argument, h, htext⟩
      refine ⟨argument, ⟨h, htext⟩, ?_⟩
      rintro other ⟨hother, hothertext⟩
      exact eq_of_toText_eq hother.toIsSeparable h.toIsSeparable (hothertext.trans htext.symm)
    · rintro ⟨argument, h, _⟩
      exact ⟨argument, h⟩
  · intro argument other h hother
    constructor
    · exact eq_of_toText_eq h hother
    · exact congrArg toText
  · intro text argument h
    obtain ⟨hform, htext⟩ := isWellFormed_of_ofText h
    exact ⟨htext, ofText_toText hform⟩
  · intro role words parsed hwords
    exact map_toText_of_map_ofText (OptionReader.givenBy_of_readWords hwords).identities

/-- A host with a comma, in capitals and with a last dot, a key's path with `=` and a path of certificates with
    both: all of it is found in the options as it was given. With the comma of the host moved to the key's path
    it would be another text. -/
theorem separators_kept_in_other_parts :
    let argument : IdentityArgument := ⟨"A,b.com.", "k=1", "c,=2"⟩
    let other : IdentityArgument := ⟨"A", "b.com.=k=1", "c,=2"⟩
    ofText "A,b.com.=k=1,c,=2" = .ok argument ∧ argument.toText = "A,b.com.=k=1,c,=2" ∧
      ofText argument.toText = .ok argument ∧ argument.toText ≠ other.toText ∧
      ∃ parsed, OptionReader.readWords .server {} ["--tls-sni-identity", "A,b.com.=k=1,c,=2"] = .ok parsed ∧
        parsed.common.identities.map toText = ["A,b.com.=k=1,c,=2"] := by
  intro argument other
  have hread : ofText "A,b.com.=k=1,c,=2" = .ok argument := by decide +kernel
  have hwords : OptionReader.readWords .server {} ["--tls-sni-identity", "A,b.com.=k=1,c,=2"] =
      .ok { common := { identities := [argument] } } := by
    decide +kernel
  obtain ⟨_, _, hinj, hback, hgiven⟩ := arguments_read_as_written
  obtain ⟨hwritten, hagain⟩ := hback _ _ hread
  have happart := hinj argument other ⟨by decide, by decide⟩ ⟨by decide, by decide⟩
  refine ⟨hread, hwritten, hagain, ?_, _, hwords, ?_⟩
  · rw [Ne, happart]
    decide
  · exact (hgiven _ _ _ hwords).trans (by decide +kernel)

end IdentityArgument

end TlsIdentity
