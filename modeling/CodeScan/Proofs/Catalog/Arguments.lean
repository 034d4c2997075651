import CodeScan.Proofs.Catalog.Flags
import CodeScan.Proofs.Pattern.Call

/-!
# Keyword arguments

Three rules look for a keyword among the arguments of a call: that a command goes through a shell,
that certificates are not verified, and that a loader is a safe one.  The patterns step over the
earlier arguments by a gap that holds no closing bracket.  Nothing in a pattern counts brackets, so
the gap ends at the first bracket that closes, be it the one of the call or of a call inside.

`flags_keywordArgument` says what this means for balanced arguments.  Without brackets among them,
the keyword is seen.  With brackets, it is as good as absent: the line is flagged exactly if the
line without the keyword is.  The reason is that every condition of these rules is settled in front
of the keyword (`opensCall_append_iff`), or about words that the keyword does not hold.
-/

namespace CodeScan

namespace Catalog

open Pattern

/-! ## What the rules say -/

/-- A member of one of the objects, by its name. -/
def IsMemberOf (objects : List (List Char)) : List Char → Prop :=
  Row [(· ∈ objects), (· = ['.']), IsWordRun]

/-- A name, a sign and a value, with blanks around the sign. -/
def IsSetting (name : List Char) (sign : Char) (value : List Char) : List Char → Prop :=
  Row [(· = name), AllBlank, (· = [sign]), AllBlank, (· = value)]

/-- What may stand for nothing, or for a quote. -/
def optionalQuote : List (List Char) := [] :: quotes.map ([·])

/-- The switch of an environment, set to zero. -/
def IsSwitchOff : List Char → Prop :=
  Row [(· = "NODE_TLS_REJECT_UNAUTHORIZED".toList), (· ∈ optionalQuote), (· ∈ [[], [']']]),
    AllBlank, (· = ['=']), AllBlank, (· ∈ optionalQuote), (· = ['0'])]

/-- The objects whose members send requests. -/
def clients : List (List Char) := ["requests", "httpx", "session", "client"].map String.toList

/-- The calls that load any object. -/
def loaders : List (List Char) :=
  ["Pickle.load", "Pickle.loads", "pickle.load", "pickle.loads", "cPickle.load", "cPickle.loads",
    "cpickle.load", "cpickle.loads", "marshal.load", "marshal.loads"].map String.toList

/-! ## The patterns -/

/-- A member of an object. -/
def memberOf (object : List Pattern) : List Pattern := [object, [.char '.'], [wordRun]].flatten

/-- A name, a sign and a value, as words of their own. -/
def setting (name : List Char) (sign : Char) (value : List Char) : Pattern :=
  concat (.boundary true ::
    ([chars name, [blankRun], [.char sign], [blankRun], chars value].flatten ++ [.boundary true]))

/-- The switch of an environment and its value. -/
def switch : Pattern :=
  concat [chars "NODE_TLS_REJECT_UNAUTHORIZED".toList, [opt (anyOf quotes)], [opt (.char ']')],
    [blankRun], [.char '='], [blankRun], [opt (anyOf quotes)], [.char '0']].flatten

/-- A call that loads any object. -/
def loaderName : List Pattern :=
  [oneOf [concat (opt (.char 'c') :: anyOf ['P', 'p'] :: chars "ickle".toList),
    word "marshal".toList]] ++ chars ".load".toList ++ [opt (.char 's')]

/-- The ways to run a command through a shell. -/
def shellCall : Pattern :=
  oneOf [call (chars "os.".toList ++ [oneOf [word "system".toList, word "popen".toList]]) [],
    call (memberOf (chars "subprocess".toList)) (keyword "shell".toList "True".toList),
    call (chars "child_process.exec".toList ++ [opt (word "Sync".toList)]) [],
    call (chars "execSync".toList) [], call (chars "shell_exec".toList) []]

/-- The ways not to verify a certificate. -/
def unverified : Pattern :=
  oneOf [call (memberOf [oneOf (clients.map word)]) (keyword "verify".toList "False".toList),
    setting "verify_mode".toList '=' "ssl.CERT_NONE".toList,
    call (chars "_create_unverified_context".toList) [],
    setting "rejectUnauthorized".toList ':' "false".toList, switch]

/-- The ways to load any object. -/
def anyLoad : Pattern :=
  oneOf [call loaderName [],
    call (chars "yaml.load".toList)
      [.ahead false (concat [[gap [')'] 0 200], chars "SafeLoader".toList].flatten)],
    call (chars "unserialize".toList) []]

section Evaluation

set_option maxRecDepth 100000

/-- The tree of the rule for shell calls. -/
theorem ofText_commandInjection : ofText commandInjection.pattern = shellCall := by
  apply ofText_eq_of_writes
  simp only [commandInjection, Text.ofString_append]
  repeat rw [Text.ofString_ofList]
  decide +kernel

/-- The tree of the rule for switched-off verification. -/
theorem ofText_tlsVerificationDisabled :
    ofText tlsVerificationDisabled.pattern = unverified := by
  apply ofText_eq_of_writes
  simp only [tlsVerificationDisabled, Text.ofString_append]
  repeat rw [Text.ofString_ofList]
  decide +kernel

/-- The tree of the rule for unsafe loading. -/
theorem ofText_insecureDeserialization :
    ofText insecureDeserialization.pattern = anyLoad := by
  apply ofText_eq_of_writes
  simp only [insecureDeserialization, Text.ofString_append]
  repeat rw [Text.ofString_ofList]
  decide +kernel

end Evaluation

/-! ## From the patterns to the line -/

variable {line : List Char}

/-- A safe loader is named among the arguments, within some characters and before any bracket that
closes. -/
def NamesSafeLoader : List Char → Prop :=
  Starts (Row [IsGap [')'] 0 200, (· = "SafeLoader".toList)])

/-- An object that writes out words, a dot and a method make a member of one of these objects. -/
theorem accepts_memberOf {object : List Pattern} {objects : List (List Char)}
    (h : (concat object).words? = some objects) :
    (concat (memberOf object)).Accepts (IsMemberOf objects) :=
  accepts_row <| .cons (accepts_of_words h) <| .cons (accepts_char '.') <|
    .cons accepts_wordRun .nil

/-- Where nothing more is asked for, anything may follow. -/
theorem begins_anything_iff {before after : List Char} : Begins [] before after ↔ Anything after :=
  iff_of_true begins_nil trivial

/-- A call with one of some names. -/
theorem exists_begins_plainCall_iff {name : List Pattern} {names : List (List Char)}
    (h : (concat name).words? = some names) (hword : ∀ w ∈ names, w.head?.any isWord = true) :
    (∃ before after, line = before ++ after ∧ Begins [call name []] before after) ↔
      OpensCall (· ∈ names) Anything line :=
  exists_begins_call_iff (accepts_of_words h) hword fun _ _ => begins_anything_iff

/-- A call of a member with a keyword argument. -/
theorem exists_begins_keywordCall_iff {object : List Pattern} {objects : List (List Char)}
    (h : (concat object).words? = some objects) (hword : ∀ w ∈ objects, w.head?.any isWord = true)
    {name value : List Char} :
    (∃ before after, line = before ++ after ∧
        Begins [call (memberOf object) (keyword name value)] before after) ↔
      OpensCall (IsMemberOf objects) (Starts (IsKeyword name value)) line := by
  refine exists_begins_call_iff (accepts_memberOf h) ?_ fun _ _ => begins_keyword_iff
  rintro _ ⟨w, hw, rest, -, rfl⟩
  exact any_head?_append (hword w hw) rest

/-- A setting between word boundaries is one that stands off words on both sides. -/
theorem exists_begins_setting_iff {name value : List Char} {sign : Char}
    (hname : name.head?.any isWord = true) (hvalue : value.getLast?.any isWord = true) :
    (∃ before after, line = before ++ after ∧ Begins [setting name sign value] before after) ↔
      Occurs EndsOffWord (IsSetting name sign value) BeginsOffWord line := by
  refine exists_begins_boundary_iff (accepts_row ?_) ?_ ?_
  · exact .cons (accepts_chars name) <| .cons accepts_blankRun <| .cons (accepts_char sign) <|
      .cons accepts_blankRun <| .cons (accepts_chars value) .nil
  · rintro _ ⟨_, rfl, rest, -, rfl⟩
    exact any_head?_append hname rest
  · intro before u after hu
    have hrow : Row ([(· = name), AllBlank, (· = [sign]), AllBlank] ++ [(· = value)]) u := hu
    obtain ⟨front, rfl⟩ := hrow.exists_eq_append
    rw [begins_boundary_iff, and_iff_left begins_nil, ← List.append_assoc]
    exact wordEdge_append_left_iff hvalue (before ++ front)

/-- The calls that the rule for shell calls looks for; one of them needs a keyword argument. -/
theorem flags_commandInjection_iff :
    flags "command-injection" line = true ↔
      OpensCall (· ∈ ["os.system", "os.popen"].map String.toList) Anything line ∨
        OpensCall (IsMemberOf ["subprocess".toList])
          (Starts (IsKeyword "shell".toList "True".toList)) line ∨
        OpensCall (· ∈ ["child_process.exec", "child_process.execSync"].map String.toList)
          Anything line ∨
        OpensCall (· ∈ ["execSync".toList]) Anything line ∨
        OpensCall (· ∈ ["shell_exec".toList]) Anything line := by
  have hmem : commandInjection ∈ definitions := by simp [definitions]
  have hos : (concat (chars "os.".toList ++ [oneOf [word "system".toList,
      word "popen".toList]])).words? = some (["os.system", "os.popen"].map String.toList) := rfl
  have hobject : (concat (chars "subprocess".toList)).words? = some ["subprocess".toList] := rfl
  have hexec : (concat (chars "child_process.exec".toList ++ [opt (word "Sync".toList)])).words? =
      some (["child_process.exec", "child_process.execSync"].map String.toList) := rfl
  have hsync : (concat (chars "execSync".toList)).words? = some ["execSync".toList] := rfl
  have hshell : (concat (chars "shell_exec".toList)).words? = some ["shell_exec".toList] := rfl
  have hflags := flags_eq_true_iff hmem ofText_commandInjection line
  rw [shellCall, exists_begins_oneOf_iff (List.cons_ne_nil _ _)] at hflags
  simp only [List.mem_cons, List.not_mem_nil, or_false, exists_eq_or_imp, exists_eq_left] at hflags
  rw [exists_begins_plainCall_iff hos (by decide),
    exists_begins_plainCall_iff hexec (by decide),
    exists_begins_plainCall_iff hsync (by decide),
    exists_begins_plainCall_iff hshell (by decide),
    exists_begins_keywordCall_iff hobject (by decide)] at hflags
  exact hflags

/-- The variable that switches verification off, with its blanks, quotes and value. -/
theorem accepts_switch : switch.Accepts IsSwitchOff := by
  have hquote : (opt (anyOf quotes)).Accepts (· ∈ optionalQuote) := accepts_of_words rfl
  have hbracket : (opt (.char ']')).Accepts (· ∈ [[], [']']]) := accepts_of_words rfl
  exact accepts_row <| .cons (accepts_chars _) <| .cons hquote <| .cons hbracket <|
    .cons accepts_blankRun <| .cons (accepts_char '=') <| .cons accepts_blankRun <|
      .cons hquote <| .cons (accepts_char '0') .nil

/-- What the rule for switched-off verification looks for: two calls, two settings and a variable.
-/
theorem flags_tlsVerificationDisabled_iff :
    flags "tls-verification-disabled" line = true ↔
      OpensCall (IsMemberOf clients) (Starts (IsKeyword "verify".toList "False".toList)) line ∨
        Occurs EndsOffWord (IsSetting "verify_mode".toList '=' "ssl.CERT_NONE".toList)
          BeginsOffWord line ∨
        OpensCall (· ∈ ["_create_unverified_context".toList]) Anything line ∨
        Occurs EndsOffWord (IsSetting "rejectUnauthorized".toList ':' "false".toList)
          BeginsOffWord line ∨
        Occurs Anything IsSwitchOff Anything line := by
  have hmem : tlsVerificationDisabled ∈ definitions := by simp [definitions]
  -- The words that the objects and names of the calls write out.
  have hclients : (concat [oneOf (clients.map word)]).words? = some clients := rfl
  have hcontext : (concat (chars "_create_unverified_context".toList)).words? =
      some ["_create_unverified_context".toList] := rfl
  have hflags := flags_eq_true_iff hmem ofText_tlsVerificationDisabled line
  rw [unverified, exists_begins_oneOf_iff (List.cons_ne_nil _ _)] at hflags
  simp only [List.mem_cons, List.not_mem_nil, or_false, exists_eq_or_imp, exists_eq_left] at hflags
  rw [exists_begins_keywordCall_iff hclients (by decide),
    exists_begins_plainCall_iff hcontext (by decide),
    exists_begins_setting_iff (by decide) (by decide),
    exists_begins_setting_iff (by decide) (by decide),
    exists_begins_piece_iff accepts_switch] at hflags
  exact hflags

/-- The look-ahead of the rule for unsafe loading forbids the safe loader within the call. -/
theorem begins_not_safeLoader_iff {before after : List Char} :
    Begins [.ahead false (concat [[gap [')'] 0 200], chars "SafeLoader".toList].flatten)]
      before after ↔ ¬ NamesSafeLoader after := by
  rw [begins_not_ahead_iff, and_iff_left begins_nil, begins_concat_iff, List.append_nil]
  refine not_congr (begins_iff_starts (accepts_row ?_))
  exact .cons accepts_gap (.cons (accepts_chars _) .nil)

/-- What the rule for unsafe loading looks for: three kinds of call, one of them without the safe
loader. -/
theorem flags_insecureDeserialization_iff :
    flags "insecure-deserialization" line = true ↔
      OpensCall (· ∈ loaders) Anything line ∨
        OpensCall (· ∈ ["yaml.load".toList]) (fun after => ¬ NamesSafeLoader after) line ∨
        OpensCall (· ∈ ["unserialize".toList]) Anything line := by
  have hmem : insecureDeserialization ∈ definitions := by simp [definitions]
  have hloaders : (concat loaderName).words? = some loaders := rfl
  have hyaml : (concat (chars "yaml.load".toList)).words? = some ["yaml.load".toList] := rfl
  have hother : (concat (chars "unserialize".toList)).words? = some ["unserialize".toList] := rfl
  have hflags := flags_eq_true_iff hmem ofText_insecureDeserialization line
  rw [anyLoad, exists_begins_oneOf_iff (List.cons_ne_nil _ _)] at hflags
  simp only [List.mem_cons, List.not_mem_nil, or_false, exists_eq_or_imp, exists_eq_left] at hflags
  rw [exists_begins_plainCall_iff hloaders (by decide),
    exists_begins_plainCall_iff hother (by decide),
    exists_begins_call_iff (accepts_of_words hyaml) (by decide) fun _ _ =>
      begins_not_safeLoader_iff] at hflags
  exact hflags

/-! ## Behind an inner call -/

section Tail

variable {core tail : List Char} {x y : Char}

/-- Behind a text that closes all its brackets, a tail without a bracket adds nothing to shell
calls. -/
theorem flags_commandInjection_append (hcore : Text.ClosesAll core) (htail : '(' ∉ tail) :
    flags "command-injection" (core ++ tail) = flags "command-injection" core := by
  have hshell : IsLocal (Starts (IsKeyword "shell".toList "True".toList)) :=
    isLocal_keyword (by decide) (by decide)
  rw [Bool.eq_iff_iff, flags_commandInjection_iff, flags_commandInjection_iff]
  simp only [opensCall_append_iff hcore htail isLocal_anything,
    opensCall_append_iff hcore htail hshell]

/-- The same for unsafe loading. -/
theorem flags_insecureDeserialization_append (hcore : Text.ClosesAll core) (htail : '(' ∉ tail) :
    flags "insecure-deserialization" (core ++ tail) = flags "insecure-deserialization" core := by
  have hsafe : IsLocal NamesSafeLoader :=
    isLocal_starts <| avoids_cons (avoids_gap (by decide)) <|
      avoids_cons (avoids_eq (by decide)) avoids_nil
  rw [Bool.eq_iff_iff, flags_insecureDeserialization_iff, flags_insecureDeserialization_iff]
  simp only [opensCall_append_iff hcore htail isLocal_anything,
    opensCall_append_iff hcore htail hsafe.not]

/-- The marks behind an argument. -/
def argumentEnds : List Char := [',', ')']

/-- No blank ends an argument. -/
theorem isBlank_of_mem_argumentEnds : ∀ x ∈ argumentEnds, isBlank x = false :=
  List.all_iff_forall_prop.1 (by decide)

/-- No word character ends an argument. -/
theorem isWord_of_mem_argumentEnds : ∀ x ∈ argumentEnds, isWord x = false :=
  List.all_iff_forall_prop.1 (by decide)

/-- A setting is seen in the line without its tail. -/
theorem occurs_setting_append_iff {name value : List Char} {sign : Char} (hx : x ∈ argumentEnds)
    (hoff : ∀ x ∈ argumentEnds, x ∉ name ∧ x ∉ [sign] ∧ x ∉ value) (hy : y ∈ name)
    (htail : y ∉ x :: tail) :
    Occurs EndsOffWord (IsSetting name sign value) BeginsOffWord (core ++ x :: tail) ↔
      Occurs EndsOffWord (IsSetting name sign value) BeginsOffWord core := by
  obtain ⟨hname, hsign, hvalue⟩ := hoff x hx
  have hblank : Avoids x AllBlank := avoids_allBlank (isBlank_of_mem_argumentEnds x hx)
  refine occurs_append_iff ?_ ?_ fun _ _ after _ _ => ?_
  · exact avoids_cons (avoids_eq hname) <| avoids_cons hblank <| avoids_cons (avoids_eq hsign) <|
      avoids_cons hblank <| avoids_cons (avoids_eq hvalue) avoids_nil
  · rintro _ ⟨_, rfl, rest, -, rfl⟩
    exact ⟨y, List.mem_append_left rest hy, htail⟩
  · exact BeginsOffWord.append_iff
      (beginsOffWord_singleton_append (isWord_of_mem_argumentEnds x hx) tail)

/-- A tail without an underscore does not write out the variable. -/
theorem occurs_switch_append_iff (hx : x ∈ argumentEnds) (htail : '_' ∉ x :: tail) :
    Occurs Anything IsSwitchOff Anything (core ++ x :: tail) ↔
      Occurs Anything IsSwitchOff Anything core := by
  have hblank : Avoids x AllBlank := avoids_allBlank (isBlank_of_mem_argumentEnds x hx)
  have hmarks : ∀ x ∈ argumentEnds, (∀ w ∈ optionalQuote, x ∉ w) ∧ (∀ w ∈ [[], [']']], x ∉ w) ∧
      x ∉ "NODE_TLS_REJECT_UNAUTHORIZED".toList ∧ x ∉ ['='] ∧ x ∉ ['0'] :=
    List.all_iff_forall_prop.1 (by decide)
  obtain ⟨hquote, hbracket, hname, hsign, hvalue⟩ := hmarks x hx
  refine occurs_append_iff ?_ ?_ fun _ _ after _ _ => Iff.rfl
  · exact avoids_cons (avoids_eq hname) <| avoids_cons hquote <| avoids_cons hbracket <|
      avoids_cons hblank <| avoids_cons (avoids_eq hsign) <| avoids_cons hblank <|
        avoids_cons hquote <| avoids_cons (avoids_eq hvalue) avoids_nil
  · rintro _ ⟨_, rfl, rest, -, rfl⟩
    exact ⟨'_', List.mem_append_left rest (by decide), htail⟩

/-- Behind a text that closes all its brackets, a tail without the letters that the other forms need
adds nothing to switched-off verification. -/
theorem flags_tlsVerificationDisabled_append (hcore : Text.ClosesAll core) (hx : x ∈ argumentEnds)
    (htail : ∀ y ∈ ['(', '_', 'U'], y ∉ x :: tail) :
    flags "tls-verification-disabled" (core ++ x :: tail) =
      flags "tls-verification-disabled" core := by
  have hverify : IsLocal (Starts (IsKeyword "verify".toList "False".toList)) :=
    isLocal_keyword (by decide) (by decide)
  have hopen := htail '(' (by decide)
  have hline := htail '_' (by decide)
  have hupper := htail 'U' (by decide)
  rw [Bool.eq_iff_iff, flags_tlsVerificationDisabled_iff, flags_tlsVerificationDisabled_iff]
  rw [opensCall_append_iff hcore hopen hverify, opensCall_append_iff hcore hopen isLocal_anything,
    occurs_setting_append_iff hx (List.all_iff_forall_prop.1 (by decide)) (by decide) hline,
    occurs_setting_append_iff hx (List.all_iff_forall_prop.1 (by decide)) (by decide) hupper,
    occurs_switch_append_iff hx hline]

end Tail

/-! ## Behind arguments without brackets -/

section Flat

variable {g object method : List Char} {objects names : List (List Char)}

/-- Arguments without a bracket, and a little more, are not too long to look past. -/
theorem isGap_arguments {lead : List Char} (hclose : ')' ∉ g) (hlength : g.length ≤ 180)
    (hlead : ')' ∉ lead) (hshort : lead.length ≤ 20) : IsGap [')'] 0 200 (g ++ lead) where
  clean x hx hmark := by
    obtain rfl := List.mem_singleton.1 hmark
    exact List.not_mem_append hclose hlead hx
  least_le := Nat.zero_le _
  le_most := by
    rw [List.length_append]
    omega

/-- A keyword is in reach behind arguments without a bracket. -/
theorem starts_keyword (hclose : ')' ∉ g) (hlength : g.length ≤ 180)
    (name value after : List Char) :
    Starts (IsKeyword name value) (g ++ ", ".toList ++ name ++ ['='] ++ value ++ after) := by
  have hgap : IsGap [')'] 0 200 (g ++ ", ".toList) :=
    isGap_arguments hclose hlength (by decide) (by decide)
  have hnone : AllBlank [] := by simp [AllBlank]
  refine ⟨_, ⟨_, hgap, _, ⟨name, rfl, _, ⟨[], hnone, _, ⟨['='], rfl, _, ⟨[], hnone, _,
    ⟨value, rfl, _, rfl, rfl⟩, rfl⟩, rfl⟩, rfl⟩, rfl⟩, rfl⟩, after, ?_⟩
  simp only [List.append_assoc, List.append_nil, List.nil_append]

/-- A keyword argument is seen behind arguments that close no bracket and are not too long. -/
theorem opensCall_keyword (hobject : object ∈ objects) (hmethod : IsWordRun method)
    (hclose : ')' ∉ g) (hlength : g.length ≤ 180) (name value after : List Char) :
    OpensCall (IsMemberOf objects) (Starts (IsKeyword name value))
      (object ++ ['.'] ++ method ++ ['('] ++
        (g ++ ", ".toList ++ name ++ ['='] ++ value ++ after)) := by
  rw [opensCall_iff]
  refine ⟨_, _, rfl, ⟨[], ?_, object ++ ['.'] ++ method, ?_, [], ?_, ?_⟩,
    starts_keyword hclose hlength name value after⟩
  · simp [EndsOffWord]
  · exact ⟨object, hobject, _, ⟨['.'], rfl, _, ⟨method, hmethod, _, rfl, rfl⟩, rfl⟩,
      by simp only [List.append_assoc, List.append_nil]⟩
  · rw [List.append_nil, List.nil_append]
  · simp [AllBlank]

/-- A text does not end with a name and blanks if no name stands at its very end. -/
theorem not_occurs_of_suffix {front : List Char} (hsolid : front.all fun x => !isBlank x)
    (hnames : ∀ w ∈ names, ¬ w <:+ front) : ¬ Occurs EndsOffWord (· ∈ names) AllBlank front := by
  rintro ⟨before, -, w, hw, blanks, rfl, hblanks⟩
  cases blanks with
  | nil => exact hnames w hw ⟨before, (List.append_nil _).symm⟩
  | cons x blanks =>
    have hx : isBlank x = false := by
      simpa using List.all_eq_true.1 hsolid x (by simp)
    exact Bool.false_ne_true (hx.symm.trans (hblanks x List.mem_cons_self))

/-- A safe loader is in reach behind arguments without a bracket. -/
theorem namesSafeLoader (hclose : ')' ∉ g) (hlength : g.length ≤ 180) :
    NamesSafeLoader (g ++ ", Loader=yaml.SafeLoader)".toList) := by
  have hgap : IsGap [')'] 0 200 (g ++ ", Loader=yaml.".toList) :=
    isGap_arguments hclose hlength (by decide) (by decide)
  refine ⟨_, ⟨_, hgap, _, ⟨_, rfl, _, rfl, rfl⟩, rfl⟩, [')'], ?_⟩
  simp only [List.append_assoc, List.append_nil]
  rfl

/-- A safe loader is seen if the only bracket that opens is that of the call. -/
theorem flags_insecureDeserialization_safe (hopen : '(' ∉ g) (hclose : ')' ∉ g)
    (hlength : g.length ≤ 180) :
    flags "insecure-deserialization"
      ("yaml.load(".toList ++ g ++ ", Loader=yaml.SafeLoader)".toList) = false := by
  have hline : "yaml.load(".toList ++ g ++ ", Loader=yaml.SafeLoader)".toList =
      "yaml.load".toList ++ ['('] ++ (g ++ ", Loader=yaml.SafeLoader)".toList) := by
    rw [← List.append_assoc]
    rfl
  have hafter : '(' ∉ g ++ ", Loader=yaml.SafeLoader)".toList :=
    List.not_mem_append hopen (by decide)
  have hsolid : "yaml.load".toList.all fun x => !isBlank x := by decide
  rw [← Bool.not_eq_true, flags_insecureDeserialization_iff, hline]
  simp only [opensCall_single_iff (by decide : '(' ∉ "yaml.load".toList) hafter]
  rintro (⟨hname, -⟩ | ⟨-, hunsafe⟩ | ⟨hname, -⟩)
  · exact not_occurs_of_suffix hsolid (by decide) hname
  · exact hunsafe (namesSafeLoader hclose hlength)
  · exact not_occurs_of_suffix hsolid (by decide) hname

end Flat

/-- Behind balanced arguments without brackets a keyword argument is seen, whatever they are.  The
first bracket that closes is taken for the end of the call: behind arguments with a bracket the
keyword makes no difference. -/
theorem flags_keywordArgument {g : List Char} (hbalanced : Text.Balanced g) :
    (')' ∉ g → g.length ≤ 180 →
      flags "command-injection" ("subprocess.run(".toList ++ g ++ ", shell=True)".toList) = true ∧
      flags "tls-verification-disabled"
        ("requests.get(".toList ++ g ++ ", verify=False)".toList) = true ∧
      flags "insecure-deserialization"
        ("yaml.load(".toList ++ g ++ ", Loader=yaml.SafeLoader)".toList) = false) ∧
    (')' ∈ g →
      flags "command-injection" ("subprocess.run(".toList ++ g ++ ", shell=True)".toList) =
        flags "command-injection" ("subprocess.run(".toList ++ g ++ ")".toList) ∧
      flags "tls-verification-disabled"
          ("requests.get(".toList ++ g ++ ", verify=False)".toList) =
        flags "tls-verification-disabled" ("requests.get(".toList ++ g ++ ")".toList) ∧
      flags "insecure-deserialization"
          ("yaml.load(".toList ++ g ++ ", Loader=yaml.SafeLoader)".toList) =
        flags "insecure-deserialization" ("yaml.load(".toList ++ g ++ ")".toList)) := by
  constructor
  · intro hclose hlength
    -- Without a closing bracket there is no opening one, so no other call gets in the way.
    have hopen : '(' ∉ g := hbalanced.open_notMem hclose
    refine ⟨?_, ?_, flags_insecureDeserialization_safe hopen hclose hlength⟩
    · have hline : "subprocess.run(".toList ++ g ++ ", shell=True)".toList =
          "subprocess".toList ++ ['.'] ++ "run".toList ++ ['('] ++
            (g ++ ", ".toList ++ "shell".toList ++ ['='] ++ "True".toList ++ [')']) := by
        simp only [List.append_assoc]
        rfl
      rw [hline, flags_commandInjection_iff]
      have hmethod : IsWordRun "run".toList := ⟨by decide, List.all_iff_forall_prop.1 (by decide)⟩
      exact .inr (.inl (opensCall_keyword (List.mem_singleton_self _) hmethod hclose hlength _ _ _))
    · have hline : "requests.get(".toList ++ g ++ ", verify=False)".toList =
          "requests".toList ++ ['.'] ++ "get".toList ++ ['('] ++
            (g ++ ", ".toList ++ "verify".toList ++ ['='] ++ "False".toList ++ [')']) := by
        simp only [List.append_assoc]
        rfl
      rw [hline, flags_tlsVerificationDisabled_iff]
      have hmethod : IsWordRun "get".toList := ⟨by decide, List.all_iff_forall_prop.1 (by decide)⟩
      exact .inl (opensCall_keyword (by decide) hmethod hclose hlength _ _ _)
  · intro hclose
    -- The call is closed within `g`, so what comes behind is outside of every call.
    have hcore {callee : List Char} (hcallee : '(' ∉ callee) :
        Text.ClosesAll (callee ++ ['('] ++ g) :=
      .of_call hbalanced.closesAll hcallee hclose
    have hrun : Text.ClosesAll ("subprocess.run(".toList ++ g) :=
      hcore (by decide : '(' ∉ "subprocess.run".toList)
    have hget : Text.ClosesAll ("requests.get(".toList ++ g) :=
      hcore (by decide : '(' ∉ "requests.get".toList)
    have hload : Text.ClosesAll ("yaml.load(".toList ++ g) :=
      hcore (by decide : '(' ∉ "yaml.load".toList)
    refine ⟨?_, ?_, ?_⟩
    · rw [flags_commandInjection_append hrun (by decide),
        flags_commandInjection_append hrun (by decide)]
    · have hkeyword : ∀ y ∈ ['(', '_', 'U'], y ∉ ", verify=False)".toList :=
        List.all_iff_forall_prop.1 (by decide)
      have hbare : ∀ y ∈ ['(', '_', 'U'], y ∉ ")".toList :=
        List.all_iff_forall_prop.1 (by decide)
      exact (flags_tlsVerificationDisabled_append hget (by decide) hkeyword).trans
        (flags_tlsVerificationDisabled_append hget (by decide) hbare).symm
    · rw [flags_insecureDeserialization_append hload (by decide),
        flags_insecureDeserialization_append hload (by decide)]

/-- A shell behind flat arguments, and a request whose address is computed. -/
theorem flags_keywordArgument_lines :
    Text.Balanced "cmd, cwd=d".toList ∧ Text.Balanced "url(x)".toList ∧
      flags "command-injection" "subprocess.run(cmd, cwd=d, shell=True)".toList = true ∧
      flags "tls-verification-disabled" "requests.get(url(x), verify=False)".toList =
        flags "tls-verification-disabled" "requests.get(url(x))".toList := by
  have hflat : Text.Balanced "cmd, cwd=d".toList := by decide
  have hnested : Text.Balanced "url(x)".toList := by decide
  refine ⟨hflat, hnested, ?_, ?_⟩
  · exact ((flags_keywordArgument hflat).1 (by decide) (by decide)).1
  · exact ((flags_keywordArgument hnested).2 (by decide)).2.1

/-- With a call among the arguments, a shell and a request that is not verified are missed, and a
safe loader is taken for an unsafe one. -/
theorem keywordArgument_behind_call :
    Text.Balanced "open(p)".toList ∧ "open(p)".toList.length ≤ 180 ∧
      flags "insecure-deserialization" "open(p)".toList = false ∧
      flags "command-injection"
        ("subprocess.run(".toList ++ "open(p)".toList ++ ", shell=True)".toList) = false ∧
      flags "tls-verification-disabled"
        ("requests.get(".toList ++ "open(p)".toList ++ ", verify=False)".toList) = false ∧
      flags "insecure-deserialization"
        ("yaml.load(".toList ++ "open(p)".toList ++ ", Loader=yaml.SafeLoader)".toList) =
          true := by
  have hcommand : commandInjection ∈ definitions := by simp [definitions]
  have hverify : tlsVerificationDisabled ∈ definitions := by simp [definitions]
  have hload : insecureDeserialization ∈ definitions := by simp [definitions]
  have hloads := flags_eq_search hload ofText_insecureDeserialization
  refine ⟨by decide, by decide, (hloads _).trans ?_, ?_, ?_, (hloads _).trans ?_⟩
  · decide +kernel
  · exact (flags_eq_search hcommand ofText_commandInjection _).trans (by decide +kernel)
  · exact (flags_eq_search hverify ofText_tlsVerificationDisabled _).trans (by decide +kernel)
  · decide +kernel

end Catalog

end CodeScan
