import Mathlib.Data.List.Induction
import TlsIdentity.CommandLine.Options
import TlsIdentity.Proofs.Runs

/-!
# What words give

The reader of words keeps an option open until its value has come, and a value until it is looked at. What
it makes of words that it reads to the end can be said without these states: `givenValues` lists the values
that the words give, in their order, and the options are what these say (`Options.GivenBy`). An option that
is still open stands for a value that the next word gives (`OptionReader.given`), and this is the invariant
that carries the reading (`OptionReader.take_given_of_readWords`). Later modules ask no more of a reader than that
it takes the values that are given (`WordReader.TakesValues`), whoever reads the words.
-/

namespace TlsIdentity

/-! ## Values in words -/

/-- The long options with values that words give, each with its value, in the order of the words. -/
def givenValues (role : Role) : List String → List (ValueFlag × String)
  | [] => []
  | text :: rest =>
    if text = "--" then []
    else match Word.ofText text with
      | .long name given =>
        match Flag.ofName? role name, given with
        | some (.valued flag), some value => (flag, value) :: givenValues role rest
        | some (.valued flag), none =>
          match rest with
          | value :: later => (flag, value) :: givenValues role later
          | [] => []
        | _, _ => givenValues role rest
      | _ => givenValues role rest

/-- The values of one option, in their order. -/
def valuesOf (flag : ValueFlag) (values : List (ValueFlag × String)) : List String :=
  (values.filter (·.1 = flag)).map (·.2)

theorem valuesOf_snoc (flag own : ValueFlag) (values : List (ValueFlag × String)) (value : String) :
    valuesOf flag (values ++ [(own, value)]) =
      valuesOf flag values ++ if own = flag then [value] else [] := by
  rw [valuesOf, List.filter_append, List.map_append, valuesOf]
  by_cases h : own = flag <;> simp [h]

namespace Options

/-- The options with one value more. -/
def take (options : Options) (entry : ValueFlag × String) : Except UsageError Options :=
  (({ common := options } : ClientOptions).takeValue entry.1 entry.2).map (·.common)

/-- The options are what values say that were given in this order: each path is the one value of its
    option, and the identities are what their values stand for. -/
structure GivenBy (options : Options) (values : List (ValueFlag × String)) : Prop where
  keyPath : options.keyPath.toList = valuesOf .keyPath values
  certPath : options.certPath.toList = valuesOf .certPath values
  identities : options.identities.map Except.ok =
    (valuesOf .identity values).map IdentityArgument.ofText
  anchorsPath : options.anchorsPath.toList = valuesOf .anchorsPath values

end Options

/-! ## One value more -/

namespace ClientOptions

variable {flag : ValueFlag} {value path : String} {old taken : Option String}

/-- A path is taken where there is none yet. -/
theorem toList_of_takePath (h : takePath old path = .ok taken) : taken.toList = old.toList ++ [path] := by
  unfold takePath at h
  split at h
  · cases h
  · next hold =>
    split at h
    · cases h
    · cases h
      rw [Option.not_isSome_iff_eq_none.mp hold]
      rfl

/-- What a value does to the options that say what to load does not depend on a client's further options. -/
theorem map_common_takeValue (options : ClientOptions) (flag : ValueFlag) (value : String) :
    (options.takeValue flag value).map (·.common) = options.common.take (flag, value) := by
  unfold Options.take takeValue
  cases flag with
  | keyPath => cases takePath options.common.keyPath value <;> rfl
  | certPath => cases takePath options.common.certPath value <;> rfl
  | anchorsPath => cases takePath options.common.anchorsPath value <;> rfl
  | identity => cases IdentityArgument.ofText value <;> rfl
  | exemptHosts => rfl

theorem take_of_takeValue {options next : ClientOptions} (h : options.takeValue flag value = .ok next) :
    options.common.take (flag, value) = .ok next.common := by
  rw [← map_common_takeValue, h]
  rfl

theorem common_of_takeBare {options next : ClientOptions} {flag : BareFlag}
    (h : options.takeBare flag = .ok next) : next.common = options.common := by
  unfold takeBare at h
  cases flag with
  | help => cases h
  | exemptAll =>
    simp only at h
    split at h
    · cases h
    · cases h
      rfl

end ClientOptions

namespace Options.GivenBy

variable {options next : Options} {values : List (ValueFlag × String)}

theorem empty : GivenBy {} [] :=
  ⟨rfl, rfl, rfl, rfl⟩

/-- Options that are what values say are so with one value more. -/
theorem take {entry : ValueFlag × String} (h : options.GivenBy values) (htake : options.take entry = .ok next) :
    next.GivenBy (values ++ [entry]) := by
  obtain ⟨flag, value⟩ := entry
  obtain ⟨parsed, hparsed, rfl⟩ := map_eq_ok_iff.mp htake
  obtain ⟨hkey, hcert, hidentities, hanchors⟩ := h
  cases flag with
  | keyPath | certPath | anchorsPath =>
    obtain ⟨path, hpath, hnext⟩ := bind_eq_ok_iff.mp hparsed
    cases hnext
    have hown := ClientOptions.toList_of_takePath hpath
    constructor <;> simp [valuesOf_snoc, hown, hkey, hcert, hidentities, hanchors]
  | identity =>
    unfold ClientOptions.takeValue at hparsed
    cases hargument : IdentityArgument.ofText value with
    | error error =>
      rw [hargument] at hparsed
      cases hparsed
    | ok argument =>
      rw [hargument] at hparsed
      cases hparsed
      constructor <;> simp [valuesOf_snoc, hkey, hcert, hidentities, hanchors, hargument]
  | exemptHosts =>
    cases hparsed
    constructor <;> simp [valuesOf_snoc, hkey, hcert, hidentities, hanchors]

/-- Options are what the values say that were taken, one after the other, from nothing. -/
theorem foldlM_take (h : values.foldlM Options.take {} = .ok options) : options.GivenBy values := by
  induction values using List.reverseRecOn generalizing options with
  | nil =>
    cases h
    exact .empty
  | append_singleton earlier entry ih =>
    obtain ⟨mid, hmid, htake⟩ := foldlM_snoc_eq_ok_iff.mp h
    exact (ih hmid).take htake

end Options.GivenBy

/-! ## Reading -/

namespace OptionReader

variable {role : Role} {reader next : OptionReader} {closed final : ClientOptions}

/-- The values that words give to a reader: first that of what is open. -/
def given (role : Role) (reader : OptionReader) (words : List String) : List (ValueFlag × String) :=
  match reader.awaiting with
  | .nothing => givenValues role words
  | .value flag =>
    match words with
    | value :: later => (flag, value) :: givenValues role later
    | [] => []
  | .check flag value => (flag, value) :: givenValues role words

/-- Closing what is open takes its value. -/
theorem take_given_of_close (h : reader.close = .ok closed) (words : List String) :
    (reader.given role words).foldlM Options.take reader.options.common =
      (givenValues role words).foldlM Options.take closed.common := by
  unfold close at h
  unfold given
  cases hopen : reader.awaiting with
  | nothing =>
    rw [hopen] at h
    cases h
    rfl
  | value flag =>
    rw [hopen] at h
    cases h
  | check flag value =>
    rw [hopen] at h
    simp only [List.foldlM_cons, ClientOptions.take_of_takeValue h]
    rfl

theorem eq_of_ofText_eq_plain {text own : String} (h : Word.ofText text = .plain own) : own = text := by
  unfold Word.ofText at h
  split at h
  · split at h <;> cases h
  · cases h
  · exact (Word.plain.inj h).symm

/-- One word is read, and what is left to take is what the reader is given by the others. -/
theorem take_given_of_readWord {text : String} {rest : List String} (hend : text ≠ "--")
    (h : reader.readWord role (Word.ofText text) = .ok next) :
    (reader.given role (text :: rest)).foldlM Options.take reader.options.common =
      (next.given role rest).foldlM Options.take next.options.common := by
  unfold readWord at h
  cases hword : Word.ofText text with
  | short letters =>
    rw [hword] at h
    simp only at h
    -- of the short options only the one for help is known, and it ends the reading
    split at h
    · obtain ⟨closed, _, h⟩ := bind_eq_ok_iff.mp h
      cases h
    · cases h
  | plain own =>
    rw [hword] at h
    obtain rfl := eq_of_ofText_eq_plain hword
    simp only at h
    split at h
    · next flag hopen =>
      cases h
      simp only [given, hopen]
    · cases h
  | long name value =>
    rw [hword] at h
    simp only at h
    cases hflag : Flag.ofName? role name with
    | none =>
      rw [hflag] at h
      cases h
    | some flag =>
      rw [hflag] at h
      unfold readFlag at h
      cases flag with
      | valued flag =>
        cases value with
        | some value =>
          obtain ⟨closed, hclosed, h⟩ := bind_eq_ok_iff.mp h
          obtain ⟨taken, htaken, h⟩ := bind_eq_ok_iff.mp h
          cases h
          have hgiven : givenValues role (text :: rest) = (flag, value) :: givenValues role rest := by
            simp only [givenValues, if_neg hend, hword, hflag]
          rw [take_given_of_close hclosed, hgiven, List.foldlM_cons,
            ClientOptions.take_of_takeValue htaken]
          rfl
        | none =>
          obtain ⟨closed, hclosed, h⟩ := bind_eq_ok_iff.mp h
          cases h
          rw [take_given_of_close hclosed]
          cases rest <;> simp only [givenValues, given, if_neg hend, hword, hflag]
      | bare flag =>
        cases value with
        | some value => cases h
        | none =>
          obtain ⟨closed, hclosed, h⟩ := bind_eq_ok_iff.mp h
          obtain ⟨taken, htaken, h⟩ := bind_eq_ok_iff.mp h
          cases h
          rw [take_given_of_close hclosed, ClientOptions.common_of_takeBare htaken]
          simp only [givenValues, given, if_neg hend, hword, hflag]

/-- **The options of words that are read to the end are taken from what the words give.** -/
theorem take_given_of_readWords {words : List String} (h : reader.readWords role words = .ok final) :
    (reader.given role words).foldlM Options.take reader.options.common = .ok final.common := by
  induction words generalizing reader with
  | nil =>
    rw [take_given_of_close h]
    rfl
  | cons text rest ih =>
    unfold readWords at h
    by_cases hend : text = "--"
    · rw [if_pos hend] at h
      split at h
      · rw [take_given_of_close h]
        simp only [givenValues, if_pos hend]
        rfl
      · cases h
    · rw [if_neg hend] at h
      obtain ⟨next, hnext, hrest⟩ := bind_eq_ok_iff.mp h
      rw [take_given_of_readWord hend hnext]
      exact ih hrest

end OptionReader

/-! ## Any reader of words -/

/-- A reader of words. It need not be this library's: programs have theirs from a package for command lines. -/
structure WordReader where
  /-- The options that words stand for. -/
  read : Role → List String → Except UsageError ClientOptions
  /-- The long options with values that words give, each with its value, in the order of the words. -/
  given : Role → List String → List (ValueFlag × String)

/-- What is relied on: where words can be read, the values that they give are taken one after the other, each as
    its own option takes it. -/
structure WordReader.TakesValues (reader : WordReader) : Prop where
  taken : ∀ {role words parsed}, reader.read role words = .ok parsed →
    (reader.given role words).foldlM Options.take {} = .ok parsed.common

/-- **Words are read as what they say**, wherever their options and values stand and in whichever form. -/
theorem WordReader.TakesValues.givenBy {reader : WordReader} (hreader : reader.TakesValues) {role : Role}
    {words : List String} {parsed : ClientOptions} (h : reader.read role words = .ok parsed) :
    parsed.common.GivenBy (reader.given role words) :=
  .foldlM_take (hreader.taken h)

namespace OptionReader

/-- The reader of words that begins with nothing open. -/
def words : WordReader where
  read role := readWords role {}
  given := givenValues

theorem takesValues_words : words.TakesValues :=
  ⟨take_given_of_readWords⟩

theorem givenBy_of_readWords {role : Role} {words : List String} {parsed : ClientOptions}
    (h : readWords role {} words = .ok parsed) : parsed.common.GivenBy (givenValues role words) :=
  takesValues_words.givenBy h

end OptionReader

end TlsIdentity
