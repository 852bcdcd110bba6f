import TreeAudit.Report.Format

-- What is asked for on a command line. Words are read from left to right and the first problem ends the
-- reading, as does a wish for help or for the version. A name of one letter follows one minus sign and
-- may share it with others; a long name follows two. The value of a setting is joined to the name or is
-- the next word, which must not look like a name. After two minus signs alone every word is taken as it
-- is.
namespace TreeAudit.CommandLine

inductive Switch
  | verbose
  | scopes
  | help
  | version
deriving Repr, DecidableEq

def Switch.name : Switch → String
  | verbose => "verbose"
  | scopes => "show-scope"
  | help => "help"
  | version => "version"

def Switch.letter? : Switch → Option Char
  | verbose => some 'v'
  | scopes => none
  | help => some 'h'
  | version => some 'V'

inductive Setting
  | rules
  | format
  | threads
deriving Repr, DecidableEq

def Setting.name : Setting → String
  | rules => "rules"
  | format => "format"
  | threads => "threads"

def Setting.letter : Setting → Char
  | rules => 'r'
  | format => 'f'
  | threads => 'j'

inductive UsageProblem
  | unknown (word : String)
  | repeated (name : String)
  | missingValue (name : String)
  | strayValue (name : String)
  | badValue (name value : String)
  | noPath
  | noCommand
deriving Repr, DecidableEq

def UsageProblem.message : UsageProblem → String
  | unknown word => s!"unexpected argument {Text.quoted word}"
  | repeated name => s!"--{name} is given twice"
  | missingValue name => s!"--{name} needs a value"
  | strayValue name => s!"--{name} takes no value"
  | badValue name value => s!"{Text.quoted value} is no value for --{name}"
  | noPath => "a path is needed"
  | noCommand => "a command is needed: check or languages"

inductive Stop
  | help
  | version
  | problem (p : UsageProblem)
deriving Repr, DecidableEq

-- A check of a file or of the files below a directory. The number of threads has no influence on the
-- report.
structure CheckRequest where
  path : String
  rules : Option String := none
  format : Format := .text
  threads : Option Nat := none
  scopes : Bool := false
deriving Repr, DecidableEq

inductive Request
  | check (c : CheckRequest)
  | languages
  | version
  | help
deriving Repr, DecidableEq

structure Given where
  switches : List Switch := []
  rules : Option String := none
  format : Option Format := none
  threads : Option Nat := none
  path : Option String := none
deriving Repr, DecidableEq

def readThreads (s : String) : Option Nat :=
  let digits := match s.toList with
    | '+' :: ds => ds
    | ds => ds
  let n := digits.foldl (fun n d => 10 * n + (d.toNat - '0'.toNat)) 0
  if digits ≠ [] && digits.all Char.isDigit && n < Nat.pow 2 64 then some n else none

def readPath (s : String) : Option String := if s.isEmpty then none else some s

namespace Given

def addSwitch (g : Given) (s : Switch) : Except Stop Given :=
  match s with
  | .help => .error .help
  | .version => .error .version
  | s =>
    if g.switches.contains s then .error (.problem (.repeated s.name))
    else .ok { g with switches := s :: g.switches }

-- Fills a setting that must not have a value yet.
def fill (s : Setting) (present : Option α) (value : String) (read : String → Option α)
    (set : α → Given) : Except Stop Given :=
  if present.isSome then .error (.problem (.repeated s.name))
  else
    match read value with
    | some a => .ok (set a)
    | none => .error (.problem (.badValue s.name value))

def addSetting (g : Given) (s : Setting) (value : String) : Except Stop Given :=
  match s with
  | .rules => fill s g.rules value readPath fun a => { g with rules := some a }
  | .format => fill s g.format value (Format.read · |>.toOption) fun a => { g with format := some a }
  | .threads => fill s g.threads value readThreads fun a => { g with threads := some a }

end Given

structure Vocabulary where
  switches : List Switch
  settings : List Setting
  takesPath : Bool

namespace Vocabulary

def top : Vocabulary := ⟨[.verbose, .help, .version], [], false⟩

def ofCheck : Vocabulary := ⟨[.verbose, .scopes, .help], [.rules, .format, .threads], true⟩

def ofLanguages : Vocabulary := ⟨[.verbose, .help], [], false⟩

-- The name and the value of a long word, without its minus signs.
def splitLong (word : List Char) : String × Option String :=
  let name := String.ofList (word.takeWhile (· ≠ '='))
  match word.dropWhile (· ≠ '=') with
  | _ :: value => (name, some (String.ofList value))
  | [] => (name, none)

def readLong (v : Vocabulary) (g : Given) (word : List Char) :
    Except Stop (Given × Option Setting) :=
  let (name, value) := splitLong word
  match v.switches.find? (·.name = name), v.settings.find? (·.name = name), value with
  | some _, _, some _ => .error (.problem (.strayValue name))
  | some s, _, none => do pure (← g.addSwitch s, none)
  | none, some s, some value => do pure (← g.addSetting s value, none)
  | none, some s, none => .ok (g, some s)
  | none, none, _ => .error (.problem (.unknown ("--" ++ name)))

-- Reads the letters after one minus sign. What stands after the letter of a setting is its value,
-- with or without an equals sign.
def readLetters (v : Vocabulary) (g : Given) : List Char → Except Stop (Given × Option Setting)
  | [] => .ok (g, none)
  | c :: rest =>
    match v.switches.find? (·.letter? = some c), v.settings.find? (·.letter = c) with
    | some s, _ => do v.readLetters (← g.addSwitch s) rest
    | none, some s =>
      match rest with
      | [] => .ok (g, some s)
      | '=' :: value => do pure (← g.addSetting s (String.ofList value), none)
      | value => do pure (← g.addSetting s (String.ofList value), none)
    | none, none => .error (.problem (.unknown (String.ofList ['-', c])))

-- A setting must not be left without its value.
def settled : Option Setting → Except Stop Unit
  | none => .ok ()
  | some s => .error (.problem (.missingValue s.name))

def readPlain (v : Vocabulary) (g : Given) (word : String) : Except Stop Given :=
  if v.takesPath && g.path.isNone then
    match readPath word with
    | some path => .ok { g with path := some path }
    | none => .error (.problem (.unknown word))
  else .error (.problem (.unknown word))

-- Reads words up to a plain word that is no path. That word and those after it are left; whether
-- they come after two minus signs is told with them.
def read (v : Vocabulary) (g : Given) (waiting : Option Setting) :
    List String → Except Stop (Given × List String)
  | [] => do
    settled waiting
    pure (g, [])
  | word :: rest =>
    match word.toList with
    | ['-', '-'] => do
      settled waiting
      pure (← rest.foldlM v.readPlain g, [])
    | '-' :: '-' :: name => do
      settled waiting
      let (g, waiting) ← v.readLong g name
      v.read g waiting rest
    | '-' :: c :: letters => do
      settled waiting
      let (g, waiting) ← v.readLetters g (c :: letters)
      v.read g waiting rest
    | _ =>
      match waiting with
      | some s => do v.read (← g.addSetting s word) none rest
      | none =>
        if v.takesPath then do v.read (← v.readPlain g word) none rest
        else .ok (g, word :: rest)

end Vocabulary

namespace Request

def readCheck (words : List String) : Except Stop Request := do
  let (g, _) ← Vocabulary.ofCheck.read {} none words
  match g.path with
  | none => .error (.problem .noPath)
  | some path =>
    pure (.check {
      path
      rules := g.rules
      format := g.format.getD .text
      threads := g.threads
      scopes := g.switches.contains .scopes })

def readLanguages (words : List String) : Except Stop Request := do
  match ← Vocabulary.ofLanguages.read {} none words with
  | (_, []) => pure .languages
  | (_, word :: _) => .error (.problem (.unknown word))

def readWords (words : List String) : Except Stop Request := do
  match ← Vocabulary.top.read {} none words with
  | (_, []) => .error (.problem .noCommand)
  | (_, command :: rest) =>
    match command with
    | "check" | "lint" => readCheck rest
    | "languages" => readLanguages rest
    | "help" => .error .help
    | _ => .error (.problem (.unknown command))

def read (words : List String) : Except UsageProblem Request :=
  match readWords words with
  | .ok r => .ok r
  | .error .help => .ok .help
  | .error .version => .ok .version
  | .error (.problem p) => .error p

end Request

end TreeAudit.CommandLine
