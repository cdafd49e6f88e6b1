import PipelineConsole.Connection.ClickHouse

/-!
# Names stay within their quotes

A server reads a quoted name up to the first backquote that is not behind a backslash. No name, with
whatever backslashes and backquotes in it, ends its quotes earlier or runs on behind them, so that
a statement is read with the names that it was made of. What a backslash does before any other
character is left open: no quoted name has one there.

## Main definitions

* `Escapes`, `Reader`, `Escapes.lexFrom`, `Escapes.lex` — how statements are read
* `Statement.lexemes`, `Statement.names` — what a statement is made of

## Main results

* `quote_eq_doubled` — backslashes are doubled first, and backquotes are escaped after them
* `texts_lex` — reading drops nothing
* `lexFrom_quote`, `lexFrom_plain` — how a quoted name is read, and what is outside of names
* `names_stay_quoted` — how statements are read, and that no two of them are the same
-/

namespace PipelineConsole.ClickHouse

/-! ### How statements are read -/

/-- What a character behind a backslash stands for in a quoted name. Backslashes and backquotes
stand for themselves. -/
structure Escapes where
  meaning : Char → List Char
  backslash : meaning '\\' = ['\\']
  backquote : meaning '\x60' = ['\x60']

/-- A backslash that makes every character stand for itself. -/
def Escapes.verbatim : Escapes := ⟨fun c => [c], rfl, rfl⟩

/-- A part of a statement: a quoted name with the text that it is read from, or a character outside
of quoted names. -/
inductive Lexeme where
  | name (text cs : List Char)
  | plain (c : Char)
  deriving DecidableEq, Repr

/-- The text of a part. -/
def Lexeme.text : Lexeme → List Char
  | name text _ => text
  | plain c => [c]

/-- The name, if the part is one. -/
def Lexeme.name? : Lexeme → Option (List Char)
  | name _ cs => some cs
  | plain _ => none

/-- Where the reading of a statement stands: outside of names, in one, or there behind a backslash.
The text and the characters of a name that have been read so far are kept. -/
inductive Reader where
  | outside
  | within (text cs : List Char)
  | escaped (text cs : List Char)

/-- The text of a name that is being read. -/
def Reader.text : Reader → List Char
  | outside => []
  | within text _ | escaped text _ => text

/-- Reads the rest of a statement. There is nothing to read if a name is not closed. -/
def Escapes.lexFrom (e : Escapes) : Reader → List Char → Option (List Lexeme)
  | .outside, [] => some []
  | .within .., [] | .escaped .., [] => none
  | .outside, c :: rest =>
    if c = '\x60' then e.lexFrom (.within [c] []) rest
    else (e.lexFrom .outside rest).map (.plain c :: ·)
  | .within text cs, c :: rest =>
    if c = '\x60' then (e.lexFrom .outside rest).map (.name (text ++ [c]) cs :: ·)
    else if c = '\\' then e.lexFrom (.escaped (text ++ [c]) cs) rest
    else e.lexFrom (.within (text ++ [c]) (cs ++ [c])) rest
  | .escaped text cs, c :: rest => e.lexFrom (.within (text ++ [c]) (cs ++ e.meaning c)) rest

/-- The parts of a statement, if its quoted names are closed. -/
def Escapes.lex (e : Escapes) (statement : String) : Option (List Lexeme) :=
  e.lexFrom .outside statement.toList

variable {e : Escapes} {text cs rest : List Char} {parts : List Lexeme}

/-- The texts of the parts are what has been read. -/
theorem texts_lexFrom {reader : Reader} (h : e.lexFrom reader rest = some parts) :
    parts.flatMap Lexeme.text = reader.text ++ rest := by
  induction rest generalizing reader parts with
  | nil =>
    cases reader with
    | outside =>
      obtain rfl := Option.some.inj h
      rfl
    | within | escaped => nomatch h
  | cons c rest ih =>
    cases reader with
    | outside =>
      rw [Escapes.lexFrom] at h
      split at h
      · exact ih h
      · obtain ⟨more, hmore, rfl⟩ := Option.map_eq_some_iff.1 h
        exact congrArg (c :: ·) (ih hmore)
    | escaped text cs =>
      rw [Escapes.lexFrom] at h
      rw [ih h, Reader.text, Reader.text, List.append_assoc, List.singleton_append]
    | within text cs =>
      rw [Escapes.lexFrom] at h
      split at h
      · obtain ⟨more, hmore, rfl⟩ := Option.map_eq_some_iff.1 h
        rw [List.flatMap_cons, ih hmore, Lexeme.text, Reader.text, Reader.text, List.nil_append,
          List.append_assoc, List.singleton_append]
      · split at h <;>
          rw [ih h, Reader.text, Reader.text, List.append_assoc, List.singleton_append]

/-- Reading drops nothing. -/
theorem texts_lex {statement : String} (h : e.lex statement = some parts) :
    parts.flatMap Lexeme.text = statement.toList :=
  texts_lexFrom h

/-! ### How names are quoted -/

/-- A list with something else in the place of a character, wherever it stands. -/
def replaced (c : Char) (escape cs : List Char) : List Char :=
  cs.flatMap fun d => if d = c then escape else [d]

/-- Backslashes are doubled first. In the other order those before backquotes would be doubled
as well. -/
theorem quote_eq_doubled (name : String) :
    quote name = "`" ++ .ofList (replaced '\x60' ['\\', '\x60']
      (replaced '\\' ['\\', '\\'] name.toList)) ++ "`" := by
  have hchar (c : Char) : quoteChar c =
      replaced '\x60' ['\\', '\x60'] (if c = '\\' then ['\\', '\\'] else [c]) := by
    by_cases hbackslash : c = '\\'
    · subst hbackslash
      decide
    · by_cases hbackquote : c = '\x60'
      · subst hbackquote
        decide
      · simp [quoteChar, replaced, hbackslash, hbackquote]
  rw [quote, funext hchar, replaced, replaced, List.flatMap_assoc]
  rfl

/-! ### How quoted names are read -/

/-- A quoted name as a part of a statement. -/
def quoted (name : String) : Lexeme := .name (quote name).toList name.toList

/-- The characters of a text as parts of a statement. -/
def plain (s : String) : List Lexeme := s.toList.map .plain

theorem toList_quote (name : String) :
    (quote name).toList = '\x60' :: (name.toList.flatMap quoteChar ++ ['\x60']) := by
  rw [quote, String.toList_append, String.toList_append, String.toList_ofList,
    String.toList_ofList, List.append_assoc, List.singleton_append]

/-- Within its quotes a character is read as it is, with what stands for it as its text. -/
theorem lexFrom_quoteChar (e : Escapes) (text cs : List Char) (c : Char) (rest : List Char) :
    e.lexFrom (.within text cs) (quoteChar c ++ rest) =
      e.lexFrom (.within (text ++ quoteChar c) (cs ++ [c])) rest := by
  rw [quoteChar]
  split
  · next hescape =>
    have hmeaning : e.meaning c = [c] := by
      rcases hescape with rfl | rfl
      · exact e.backslash
      · exact e.backquote
    have hbackslash : ('\\' : Char) ≠ '\x60' := by decide
    rw [List.cons_append, Escapes.lexFrom, if_neg hbackslash, if_pos rfl, List.cons_append,
      Escapes.lexFrom, hmeaning, List.append_assoc, List.singleton_append, List.nil_append]
  · next hplain =>
    obtain ⟨hbackslash, hbackquote⟩ := not_or.1 hplain
    rw [List.cons_append, Escapes.lexFrom, if_neg hbackquote, if_neg hbackslash, List.nil_append]

theorem lexFrom_body (e : Escapes) (text cs body rest : List Char) :
    e.lexFrom (.within text cs) (body.flatMap quoteChar ++ rest) =
      e.lexFrom (.within (text ++ body.flatMap quoteChar) (cs ++ body)) rest := by
  induction body generalizing text cs with
  | nil => rw [List.flatMap_nil, List.append_nil, List.append_nil, List.nil_append]
  | cons c body ih =>
    rw [List.flatMap_cons, List.append_assoc, lexFrom_quoteChar, ih, List.append_assoc,
      List.append_assoc, List.singleton_append]

/-- Whatever follows it, a quoted name is read up to its end and no further. -/
theorem lexFrom_quote (e : Escapes) (name : String) (rest : List Char) :
    e.lexFrom .outside ((quote name).toList ++ rest) =
      (e.lexFrom .outside rest).map (quoted name :: ·) := by
  have hopen (tail : List Char) :
      e.lexFrom .outside ('\x60' :: tail) = e.lexFrom (.within ['\x60'] []) tail := by
    rw [Escapes.lexFrom, if_pos rfl]
  have hclose (text cs : List Char) : e.lexFrom (.within text cs) ('\x60' :: rest) =
      (e.lexFrom .outside rest).map (.name (text ++ ['\x60']) cs :: ·) := by
    rw [Escapes.lexFrom, if_pos rfl]
  rw [quoted, toList_quote, List.cons_append, List.append_assoc, hopen, lexFrom_body,
    List.nil_append, List.singleton_append, List.singleton_append, hclose, List.cons_append]

/-- What has no backquote in it is outside of names. -/
theorem lexFrom_plain (e : Escapes) (hcs : '\x60' ∉ cs) (rest : List Char) :
    e.lexFrom .outside (cs ++ rest) =
      (e.lexFrom .outside rest).map (cs.map Lexeme.plain ++ ·) := by
  induction cs with
  | nil => exact Option.map_id'.symm
  | cons c cs ih =>
    obtain ⟨hne, hcs⟩ := not_or.1 (mt List.mem_cons.2 hcs)
    rw [List.cons_append, Escapes.lexFrom, if_neg (Ne.symm hne), ih hcs, Option.map_map]
    rfl

/-! ### How statements are read -/

/-- The parts that a statement is made of. -/
def Statement.lexemes : Statement → List Lexeme
  | ping => plain "SELECT 1"
  | databases => plain "SHOW DATABASES FORMAT JSON"
  | tables database => plain "SHOW TABLES FROM " ++ quoted database :: plain " FORMAT JSON"
  | columns database table =>
    plain "DESCRIBE TABLE " ++ quoted database :: (plain "." ++ quoted table ::
      plain " FORMAT JSON")

/-- The names in a statement. -/
def Statement.names : Statement → List String
  | ping | databases => []
  | tables database => [database]
  | columns database table => [database, table]

theorem lex_plain (e : Escapes) {s : String} (hs : '\x60' ∉ s.toList) :
    e.lex s = some (plain s) := by
  rw [Escapes.lex, ← List.append_nil s.toList, lexFrom_plain e hs, Escapes.lexFrom,
    Option.map_some, List.append_nil, plain]

/-- A statement is read as what it is made of. -/
theorem lex_text (e : Escapes) (s : Statement) : e.lex s.text = some s.lexemes := by
  have hformat : e.lexFrom .outside " FORMAT JSON".toList = some (plain " FORMAT JSON") :=
    lex_plain e (by decide)
  cases s with
  | ping => exact lex_plain e (by decide)
  | databases => exact lex_plain e (by decide)
  | tables database =>
    simp only [Escapes.lex, Statement.text, asDocument, String.toList_append, List.append_assoc]
    rw [lexFrom_plain e (by decide), lexFrom_quote, hformat]
    rfl
  | columns database table =>
    simp only [Escapes.lex, Statement.text, asDocument, String.toList_append, List.append_assoc]
    rw [lexFrom_plain e (by decide), lexFrom_quote, lexFrom_plain e (by decide), lexFrom_quote,
      hformat]
    rfl

@[simp] theorem filterMap_plain (s : String) : (plain s).filterMap Lexeme.name? = [] := by
  rw [plain, List.filterMap_map]
  exact List.filterMap_eq_nil_iff.2 fun _ _ => rfl

/-- The names that are read are those in the statement. -/
theorem filterMap_lexemes (s : Statement) :
    s.lexemes.filterMap Lexeme.name? = s.names.map String.toList := by
  cases s <;> simp [Statement.lexemes, Statement.names, quoted, Lexeme.name?]

/-- Different statements have different texts. -/
theorem text_injective : Function.Injective Statement.text := by
  intro s s' htext
  have hlexemes : s.lexemes = s'.lexemes := by
    have hread := lex_text .verbatim s
    rw [htext, lex_text] at hread
    exact (Option.some.inj hread).symm
  have hnames : s.names = s'.names := by
    have hread := congrArg (List.filterMap Lexeme.name?) hlexemes
    rw [filterMap_lexemes, filterMap_lexemes] at hread
    exact (List.map_inj_right fun _ _ => String.toList_inj.1).1 hread
  have hdiffer : Statement.ping.text ≠ Statement.databases.text := by decide
  -- Without names there are two statements, and otherwise the names tell which it is.
  cases s <;> cases s' <;> simp_all [Statement.names]

/-- Statements about the tables of a database and about the columns of a table are read with just
the names that they were made of, whatever these are and whatever else a backslash may do. The text
of each name ends where quoting has ended it, since the texts of the parts make up the statement. So
no two statements have the same text. -/
theorem names_stay_quoted (e : Escapes) :
    (∀ database, e.lex (Statement.tables database).text =
      some (plain "SHOW TABLES FROM " ++ quoted database :: plain " FORMAT JSON")) ∧
    (∀ database table, e.lex (Statement.columns database table).text =
      some (plain "DESCRIBE TABLE " ++ quoted database ::
        (plain "." ++ quoted table :: plain " FORMAT JSON"))) ∧
    (∀ s : Statement, s.lexemes.flatMap Lexeme.text = s.text.toList) ∧
    Function.Injective Statement.text :=
  ⟨fun database => lex_text e (.tables database),
    fun database table => lex_text e (.columns database table),
    fun s => texts_lex (lex_text e s), text_injective⟩

/-- Names that would end their quotes, and take the next ones for their own, are read back. -/
theorem hostile_names_stay_quoted :
    Escapes.verbatim.lex (Statement.columns "a`\\" "b`.`c").text =
        some (plain "DESCRIBE TABLE " ++ .name "`a\\`\\\\`".toList "a`\\".toList ::
          (plain "." ++ .name "`b\\`.\\`c`".toList "b`.`c".toList :: plain " FORMAT JSON")) ∧
      (Statement.columns "a" "b`.`c").text ≠ (Statement.columns "a`.`b" "c").text := by
  obtain ⟨-, hcolumns, -, hinj⟩ := names_stay_quoted .verbatim
  have hdatabase : quoted "a`\\" = .name "`a\\`\\\\`".toList "a`\\".toList := by decide
  have htable : quoted "b`.`c" = .name "`b\\`.\\`c`".toList "b`.`c".toList := by decide
  refine ⟨?_, hinj.ne (by decide)⟩
  rw [hcolumns, hdatabase, htable]

end PipelineConsole.ClickHouse
