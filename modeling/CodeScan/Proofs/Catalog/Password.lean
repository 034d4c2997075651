import CodeScan.Proofs.Catalog.Flags
import CodeScan.Proofs.Text.Marks

/-!
# Passwords that are assigned and passwords that are compared

Two rules look at a password next to a text in quotes.  The rule on credentials wants one sign in
between, an assignment; the rule on authentication wants two or three, a comparison.  Each is first
read as what it asks of any line (`flags_hardcodedCredentials_iff`,
`flags_authenticationBypass_iff`).  Then `flags_passwordLine_iff` says that on a line that consists
of a password, signs and a text in quotes the two rules never speak about the same line, and each
speaks up to the length that it allows.

The text in quotes is any text without quotes and without the sign, so it may well hold the names
that the rules look for.  Nothing in it can be taken for a match.  A value in quotes is this text,
as the line has only the two quotes around it (`PasswordLine.parts_unique`), and a flag would have
to be named in front of the last sign (`PasswordLine.not_forcesFlag_text`).
-/

namespace CodeScan

namespace Catalog

open Pattern

/-! ## Credentials -/

/-- The names that tell of a secret. -/
def credentialNames : List (List Char) :=
  ["password", "passwd", "pwd", "secret", "apikey", "api_key", "apiKey", "accesstoken",
    "access_token", "authtoken", "auth_token", "PASSWORD", "PASSWD", "SECRET", "API_KEY",
    "ACCESS_TOKEN"].map String.toList

/-- One of these names. -/
def credentialName : Pattern :=
  let spaced (first last : String) : Pattern :=
    concat (chars first.toList ++ opt (.char '_') :: chars last.toList)
  oneOf [word "password".toList, word "passwd".toList, word "pwd".toList, word "secret".toList,
    spaced "api" "key", word "apiKey".toList, spaced "access" "token", spaced "auth" "token",
    word "PASSWORD".toList, word "PASSWD".toList, word "SECRET".toList, word "API_KEY".toList,
    word "ACCESS_TOKEN".toList]

/-- A name, one sign and a value in quotes. -/
def credentialPattern : Pattern :=
  concat [credentialName, opt (anyOf quotes), blankRun, anyOf [':', '='], blankRun,
    anyOf quotes, gap quotes 1 199, anyOf quotes]

/-! ## Passwords in a comparison -/

/-- The names of a password that is compared. -/
def passwordNames : List (List Char) :=
  ["password", "passwd", "pwd", "PASSWORD"].map String.toList

/-- The names of a flag that tells who may go on. -/
def flagNames : List (List Char) :=
  ["isAdmin", "is_admin", "isAuthenticated", "is_authenticated"].map String.toList

/-- A password, two or three signs and a value in quotes. -/
def comparison : Pattern :=
  concat [oneOf (passwordNames.map word), blankRun, .char '=', .char '=', opt (.char '='),
    blankRun, anyOf quotes, gap quotes 0 200, anyOf quotes]

/-- A flag that is set. -/
def forcedFlag : Pattern :=
  concat [.boundary true, oneOf (flagNames.map word), blankRun, .char '=', blankRun,
    oneOf [word "true".toList, word "True".toList], .boundary true]

section Evaluation

set_option maxRecDepth 100000

/-- The tree of the rule for credentials. -/
theorem ofText_hardcodedCredentials : ofText hardcodedCredentials.pattern = credentialPattern := by
  apply ofText_eq_of_writes
  simp only [hardcodedCredentials, Text.ofString_append]
  repeat rw [Text.ofString_ofList]
  decide +kernel

/-- The tree of the rule for bypassed authentication. -/
theorem ofText_authenticationBypass :
    ofText authenticationBypass.pattern = oneOf [comparison, forcedFlag] := by
  apply ofText_eq_of_writes
  simp only [authenticationBypass, Text.ofString_append]
  repeat rw [Text.ofString_ofList]
  decide +kernel

end Evaluation

/-! ## What the rules say -/

/-- The line gives a secret a value: a name, which may be closed by a quote, one sign and the value
in quotes. -/
def GivesSecret (line : List Char) : Prop :=
  ∃ before, ∃ name ∈ credentialNames, ∃ close, (close = [] ∨ ∃ x ∈ quotes, close = [x]) ∧
    ∃ blanks, AllBlank blanks ∧ ∃ sign ∈ [':', '='], ∃ blanks', AllBlank blanks' ∧
      ∃ first ∈ quotes, ∃ value, IsGap quotes 1 200 value ∧ ∃ last ∈ quotes, ∃ after,
        line = before ++ name ++ close ++ blanks ++ [sign] ++ blanks' ++ [first] ++ value ++
          [last] ++ after

/-- The line compares a password with a text in quotes. -/
def ComparesPassword (line : List Char) : Prop :=
  ∃ before, ∃ name ∈ passwordNames, ∃ blanks, AllBlank blanks ∧ ∃ third ∈ [[], ['=']],
    ∃ blanks', AllBlank blanks' ∧ ∃ first ∈ quotes, ∃ value, IsGap quotes 0 200 value ∧
      ∃ last ∈ quotes, ∃ after,
        line = before ++ name ++ blanks ++ ['='] ++ ['='] ++ third ++ blanks' ++ [first] ++ value ++
          [last] ++ after

/-- The line sets a flag that tells who may go on. -/
def ForcesFlag (line : List Char) : Prop :=
  ∃ before, EndsOffWord before ∧ ∃ name ∈ flagNames, ∃ blanks, AllBlank blanks ∧
    ∃ blanks', AllBlank blanks' ∧ ∃ value ∈ ["true".toList, "True".toList], ∃ after,
      line = before ++ name ++ blanks ++ ['='] ++ blanks' ++ value ++ after ∧ BeginsOffWord after

variable {line : List Char}

/-- The rule for credentials flags the lines that give a secret. -/
theorem flags_hardcodedCredentials_iff :
    flags "hardcoded-credentials" line = true ↔ GivesSecret line := by
  have hmem : hardcodedCredentials ∈ definitions := by simp [definitions]
  have hnames : credentialName.words? = some credentialNames := rfl
  have hflags := flags_eq_true_iff hmem ofText_hardcodedCredentials line
  simp only [credentialPattern, begins_concat_iff, List.append_nil,
    begins_of_accepts (accepts_of_words hnames), begins_of_accepts accepts_anyOf.opt,
    begins_blankRun_iff, begins_anyOf_iff, begins_of_accepts accepts_gap] at hflags
  simp only [↓exists_piece_iff, begins_nil, and_true] at hflags
  exact hflags

/-- The first form of the rule for bypassed authentication is a comparison with a password. -/
theorem exists_begins_comparison_iff :
    (∃ before after, line = before ++ after ∧ Begins [comparison] before after) ↔
      ComparesPassword line := by
  have hnames : (oneOf (passwordNames.map word)).words? = some passwordNames := rfl
  have hthird : (opt (.char '=')).words? = some [[], ['=']] := rfl
  unfold ComparesPassword
  simp only [comparison, begins_concat_iff, List.append_nil,
    begins_of_accepts (accepts_of_words hnames), begins_of_accepts (accepts_of_words hthird),
    begins_blankRun_iff, begins_char_iff, begins_anyOf_iff, begins_of_accepts accepts_gap]
  simp only [↓exists_word_iff, ↓exists_piece_iff, begins_nil, and_true]

/-- The second form is a flag that is forced. -/
theorem exists_begins_forcedFlag_iff :
    (∃ before after, line = before ++ after ∧ Begins [forcedFlag] before after) ↔
      ForcesFlag line := by
  have hnames : (oneOf (flagNames.map word)).words? = some flagNames := rfl
  have hvalues : (oneOf [word "true".toList, word "True".toList]).words? =
    some ["true".toList, "True".toList] := rfl
  have hstart : ∀ name ∈ flagNames, name.head?.any isWord = true := by decide
  have hstop : ∀ value ∈ ["true".toList, "True".toList], value.getLast?.any isWord = true := by
    decide
  unfold ForcesFlag
  simp only [forcedFlag, begins_concat_iff, List.append_nil,
    begins_boundary_of_accepts (accepts_of_words hnames) hstart,
    begins_of_accepts (accepts_of_words hnames),
    begins_of_accepts_boundary (accepts_of_words hvalues) hstop, begins_blankRun_iff,
    begins_char_iff]
  simp only [↓exists_condition_iff, ↓exists_word_iff, ↓exists_piece_iff, begins_nil, and_true]

/-- The rule for bypassed authentication flags the lines of either form. -/
theorem flags_authenticationBypass_iff :
    flags "authentication-bypass" line = true ↔ ComparesPassword line ∨ ForcesFlag line := by
  have hmem : authenticationBypass ∈ definitions := by simp [definitions]
  rw [← exists_begins_comparison_iff, ← exists_begins_forcedFlag_iff, ← exists_begins_either_iff]
  exact flags_eq_true_iff hmem ofText_authenticationBypass line

/-! ## A password, signs and a text in quotes -/

/-- The name of the password on the line. -/
def passwordName : List Char := "password".toList

/-- What a line holds beside a password and signs: blanks, and a text in quotes that has no quote
and no sign in it. -/
structure PasswordLine where
  /-- The blanks in front of the signs. -/
  blanks : List Char
  /-- The blanks behind them. -/
  blanks' : List Char
  first : Char
  value : List Char
  last : Char
  allBlank : AllBlank blanks
  allBlank' : AllBlank blanks'
  first_mem : first ∈ quotes
  last_mem : last ∈ quotes
  clean : ∀ x ∈ value, x ∉ quotes
  sign_notMem : '=' ∉ value

/-- No sign of equality is among blanks. -/
theorem sign_notMem_blanks {blanks : List Char} (h : AllBlank blanks) : '=' ∉ blanks := by
  intro hmem
  exact absurd (h '=' hmem) (by decide)

theorem sign_notMem_quote {x : Char} (hx : x ∈ quotes) : '=' ∉ [x] := fun hmem =>
  absurd (List.mem_singleton.1 hmem ▸ hx) (by decide)

namespace PasswordLine

variable (l : PasswordLine) (n : Nat)

/-- The line up to the text in quotes, with `n` signs. -/
def front : List Char := passwordName ++ l.blanks ++ List.replicate n '=' ++ l.blanks'

/-- The line with `n` signs. -/
def text : List Char := l.front n ++ [l.first] ++ l.value ++ [l.last]

variable {l n} {x y : Char} {u v w : List Char}

/-- In front of the value are the name, blanks and signs. -/
theorem mem_front (hx : x ∈ l.front n) :
    x ∈ passwordName ∨ isBlank x = true ∨ (x = '=' ∧ n ≠ 0) := by
  unfold front at hx
  simp only [List.mem_append, List.mem_replicate] at hx
  rcases hx with ((hname | hblank) | ⟨hn, hsign⟩) | hblank
  · exact .inl hname
  · exact .inr (.inl (l.allBlank x hblank))
  · exact .inr (.inr ⟨hsign, hn⟩)
  · exact .inr (.inl (l.allBlank' x hblank))

/-- The other sign that a value may be given by, the colon, is not on the line. -/
theorem eq_sign_of_mem_front (hx : x ∈ [':', '=']) (hmem : x ∈ l.front n) : x = '=' := by
  rcases List.mem_pair.1 hx with rfl | hsign
  · rcases mem_front hmem with hname | hblank | ⟨hsign, -⟩
    · exact absurd hname (by decide)
    · exact absurd hblank (by decide)
    · exact hsign
  · exact hsign

/-- So there is no quote in front of the value. -/
theorem quote_notMem_front (hx : x ∈ quotes) : x ∉ l.front n := by
  have hquotes : ∀ x ∈ quotes, x ∉ passwordName ∧ x ≠ '=' := List.all_iff_forall_prop.1 (by decide)
  intro hmem
  rcases mem_front hmem with hname | hblank | ⟨hsign, -⟩
  · exact (hquotes x hx).1 hname
  · have hsolid := isBlank_of_mem_templateQuotes x (mem_templateQuotes_of_mem_quotes hx)
    exact Bool.false_ne_true (hsolid.symm.trans hblank)
  · exact (hquotes x hx).2 hsign

/-- The only quotes of the line are the two around the text. -/
theorem parts_unique (hx : x ∈ quotes) (hy : y ∈ quotes)
    (h : l.text n = u ++ [x] ++ v ++ [y] ++ w) : u = l.front n ∧ v = l.value := by
  have hvalue {z : Char} (hz : z ∈ quotes) : z ∉ l.value := fun hmem => l.clean z hmem hz
  have hmarks : l.front n ++ [l.first] ++ l.value ++ [l.last] ++ [] =
      u ++ [x] ++ v ++ [y] ++ w := (List.append_nil _).trans h
  obtain ⟨hu, -, hv, -, -⟩ := marks_unique
    ⟨quote_notMem_front hx, hvalue hx, List.not_mem_nil⟩ ⟨hvalue hy, List.not_mem_nil⟩ hmarks
  exact ⟨hu, hv⟩

/-- The run of signs in front of the text is the one that the line was given. -/
theorem signs_unique {before piece blanks : List Char} {m : Nat} (hne : piece ≠ [])
    (hpiece : '=' ∉ piece) (hblanks : AllBlank blanks)
    (h : before ++ piece ++ List.replicate (m + 1) '=' ++ blanks = l.front n) : n = m + 1 := by
  have hsign : '=' ∈ l.front n := by simp [← h]
  rcases mem_front hsign with hname | hblank | ⟨-, hn⟩
  · exact absurd hname (by decide)
  · exact absurd hblank (by decide)
  obtain ⟨k, rfl⟩ := Nat.exists_eq_succ_of_ne_zero hn
  have hleft : (before ++ piece).getLast? ≠ some '=' := by
    rw [List.getLast?_append_of_ne_nil before hne]
    exact fun hlast => hpiece (List.mem_of_getLast? hlast)
  have hright : (passwordName ++ l.blanks).getLast? ≠ some '=' := fun hlast =>
    List.not_mem_append (by decide) (sign_notMem_blanks l.allBlank) (List.mem_of_getLast? hlast)
  rw [run_unique hleft hright (sign_notMem_blanks hblanks) (sign_notMem_blanks l.allBlank') h]

/-- The line gives a secret exactly if it has one sign and a value of 1 to 200 characters. -/
theorem givesSecret_text_iff :
    GivesSecret (l.text n) ↔ n = 1 ∧ 1 ≤ l.value.length ∧ l.value.length ≤ 200 := by
  constructor
  · rintro ⟨before, name, hname, close, hclose, blanks, hblanks, sign, hsign, blanks', hblanks',
      first, hfirst, value, ⟨-, hleast, hmost⟩, last, hlast, after, hline⟩
    obtain ⟨hfront, rfl⟩ := parts_unique hfirst hlast hline
    have hmem : sign ∈ l.front n := by simp [← hfront]
    obtain rfl := eq_sign_of_mem_front hsign hmem
    have hnames : ∀ name ∈ credentialNames, name ≠ [] ∧ '=' ∉ name := by decide
    obtain ⟨hne, hclean⟩ := hnames name hname
    have hnone : '=' ∉ close := by
      rcases hclose with rfl | ⟨x, hx, rfl⟩
      · exact List.not_mem_nil
      · exact sign_notMem_quote hx
    -- The signs between the name and the value are the only ones in front of the value.
    have hruns : before ++ (name ++ close ++ blanks) ++ List.replicate 1 '=' ++ blanks' =
        l.front n := by
      rw [← hfront]
      simp only [List.append_assoc, List.replicate_one]
    refine ⟨signs_unique ?_ ?_ hblanks' hruns, hleast, hmost⟩
    · exact List.append_ne_nil_of_left_ne_nil (List.append_ne_nil_of_left_ne_nil hne close) blanks
    · exact List.not_mem_append (List.not_mem_append hclean hnone) (sign_notMem_blanks hblanks)
  · rintro ⟨rfl, hleast, hmost⟩
    exact ⟨[], passwordName, by decide, [], .inl rfl, l.blanks, l.allBlank, '=', by decide,
      l.blanks', l.allBlank', l.first, l.first_mem, l.value, ⟨l.clean, hleast, hmost⟩, l.last,
      l.last_mem, [], by simp [text, front]⟩

/-- The line compares a password exactly if it has two or three signs and a value of at most 200
characters. -/
theorem comparesPassword_text_iff :
    ComparesPassword (l.text n) ↔ (n = 2 ∨ n = 3) ∧ l.value.length ≤ 200 := by
  constructor
  · rintro ⟨before, name, hname, blanks, hblanks, third, hthird, blanks', hblanks', first, hfirst,
      value, ⟨-, -, hmost⟩, last, hlast, after, hline⟩
    obtain ⟨hfront, rfl⟩ := parts_unique hfirst hlast hline
    have hnames : ∀ name ∈ passwordNames, name ≠ [] ∧ '=' ∉ name := by decide
    obtain ⟨hne, hclean⟩ := hnames name hname
    have hne : name ++ blanks ≠ [] := List.append_ne_nil_of_left_ne_nil hne blanks
    have hclean : '=' ∉ name ++ blanks := List.not_mem_append hclean (sign_notMem_blanks hblanks)
    -- The signs between the name and the value are the only ones in front of the value.
    have hsigns (m : Nat) (hm : ['='] ++ ['='] ++ third = List.replicate (m + 1) '=') :
        n = m + 1 := by
      have hruns : before ++ (name ++ blanks) ++ List.replicate (m + 1) '=' ++ blanks' =
          l.front n := by
        rw [← hm, ← hfront]
        simp only [List.append_assoc]
      exact signs_unique hne hclean hblanks' hruns
    refine ⟨?_, hmost⟩
    rcases List.mem_pair.1 hthird with rfl | rfl
    · exact .inl (hsigns 1 rfl)
    · exact .inr (hsigns 2 rfl)
  · rintro ⟨hn, hmost⟩
    obtain ⟨third, hthird, hsigns⟩ :
        ∃ third ∈ [[], ['=']], List.replicate n '=' = ['='] ++ ['='] ++ third := by
      rcases hn with rfl | rfl
      · exact ⟨[], by decide, rfl⟩
      · exact ⟨['='], by decide, rfl⟩
    exact ⟨[], passwordName, by decide, l.blanks, l.allBlank, third, hthird, l.blanks', l.allBlank',
      l.first, l.first_mem, l.value, ⟨l.clean, Nat.zero_le _, hmost⟩, l.last, l.last_mem, [],
      by simp [text, front, hsigns]⟩

/-- No flag is set on such a line: what stands in front of its last sign is no name of a flag. -/
theorem not_forcesFlag_text : ¬ ForcesFlag (l.text n) := by
  rintro ⟨before, -, name, hname, blanks, -, blanks', -, value, -, after, hline, -⟩
  have hback : '=' ∉ l.blanks' ++ [l.first] ++ l.value ++ [l.last] :=
    List.not_mem_append (List.not_mem_append (List.not_mem_append (sign_notMem_blanks l.allBlank')
      (sign_notMem_quote l.first_mem)) l.sign_notMem) (sign_notMem_quote l.last_mem)
  have hprefix : before ++ name ++ blanks <+: passwordName ++ l.blanks ++ List.replicate n '=' := by
    apply prefix_of_mark_notMem hback (v := blanks' ++ value ++ after)
    simpa only [text, front, List.append_assoc] using hline.symm
  have hnames : ∀ name ∈ flagNames,
      (name.any fun x => decide (x ∉ passwordName ∧ isBlank x = false ∧ x ≠ '=')) = true := by
    decide
  obtain ⟨x, hx, hother, hsolid, hnone⟩ := List.any_iff_exists_prop.1 (hnames name hname)
  have hmem := hprefix.subset (List.mem_append_left blanks (List.mem_append_right before hx))
  rcases mem_front (List.mem_append_left l.blanks' hmem) with hword | hblank | ⟨hsign, -⟩
  · exact hother hword
  · exact Bool.false_ne_true (hsolid.symm.trans hblank)
  · exact hnone hsign

end PasswordLine

/-- A password with one sign is an assignment and one with two or three signs is a comparison, and
no line is both.  The text in quotes matters by its length alone. -/
theorem flags_passwordLine_iff (l : PasswordLine) (n : Nat) :
    (flags "hardcoded-credentials" (l.text n) = true ↔
        n = 1 ∧ 1 ≤ l.value.length ∧ l.value.length ≤ 200) ∧
      (flags "authentication-bypass" (l.text n) = true ↔
        (n = 2 ∨ n = 3) ∧ l.value.length ≤ 200) := by
  constructor
  · rw [flags_hardcodedCredentials_iff, PasswordLine.givesSecret_text_iff]
  · rw [flags_authenticationBypass_iff, or_iff_left PasswordLine.not_forcesFlag_text,
      PasswordLine.comparesPassword_text_iff]

/-- The names that the rules look for make no difference in the text in quotes. -/
theorem flags_passwordLine_names :
    let l : PasswordLine :=
      { blanks := ['\t'], blanks' := [' '], first := '"', value := "isAdmin, pwd: secret".toList,
        last := '\'', allBlank := fun x hx => List.mem_singleton.1 hx ▸ rfl,
        allBlank' := fun x hx => List.mem_singleton.1 hx ▸ rfl, first_mem := by decide,
        last_mem := by decide, clean := List.all_iff_forall_prop.1 (by decide),
        sign_notMem := by decide }
    flags "hardcoded-credentials" (l.text 1) = true ∧
      flags "authentication-bypass" (l.text 3) = true ∧
      ¬ flags "hardcoded-credentials" (l.text 3) = true := by
  intro l
  refine ⟨?_, ?_, ?_⟩
  · exact (flags_passwordLine_iff l 1).1.2 ⟨rfl, by decide⟩
  · exact (flags_passwordLine_iff l 3).2.2 ⟨.inr rfl, by decide⟩
  · exact fun h => absurd ((flags_passwordLine_iff l 3).1.1 h).1 (by decide)

end Catalog

end CodeScan
