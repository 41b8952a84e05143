/-!
# Words of a command line

`OptionForm` : how an option is written, and what it takes.
`Word`       : a word by its shape.
`Forms.read` : words as options with their values, up to the name of a command.

Every word is an option, the value of one, or a command; nothing else is accepted. An option may come once.
-/

namespace SchemaMigration.CommandLine

set_option autoImplicit false

inductive Stop
  /-- They are no command line. -/
  | usage
  | help
  | version
  deriving DecidableEq, Repr

inductive Role
  /-- It takes a value, which has to be accepted. -/
  | takes (accepts : String → Bool)
  | flag
  | stops (s : Stop)

/-- How an option is written: after two dashes, and if it has a letter after one. -/
structure OptionForm (ι : Type) where
  id : ι
  long : String
  letter : Option Char
  role : Role

structure Forms (ι : Type) where
  options : List (OptionForm ι)
  commands : List String

/-- Options with their values, and the command that ends them with the words after it. -/
structure Reading (ι : Type) where
  /-- The last first; a flag has no text. -/
  given : List (ι × String)
  command : Option (String × List String)

/-! ## Shapes -/

inductive Word
  | long (name : String) (value : Option String)
  | short (letter : Char) (value : Option String)
  | separator
  | bare
  deriving DecidableEq, Repr

/-- The value after an option in the same word. -/
def attached? : List Char → Option String
  | '=' :: v => some (String.ofList v)
  | _ => none

/-- The shape of a word. A dash alone is a bare word. -/
def Word.of (word : String) : Word :=
  match word.toList with
  | ['-', '-'] => separator
  | '-' :: '-' :: r => long (String.ofList (r.takeWhile (· != '='))) (attached? (r.dropWhile (· != '=')))
  | '-' :: c :: r => short c (if r.isEmpty then none else some ((attached? r).getD (String.ofList r)))
  | _ => bare

/-! ## Reading -/

namespace Forms

variable {ι : Type}

def option? (f : Forms ι) : Word → Option (OptionForm ι × Option String)
  | .long name value => (f.options.find? (·.long == name)).map (·, value)
  | .short letter value => (f.options.find? (·.letter == some letter)).map (·, value)
  | .separator | .bare => none

/-- The options given so far with one more, which must not have been given before. -/
def give [BEq ι] (given : List (ι × String)) (o : OptionForm ι) (value : String) : Except Stop (List (ι × String)) :=
  if given.any (·.1 == o.id) then .error .usage else .ok ((o.id, value) :: given)

/-- What an option gives by itself; none if its value is still to come. -/
def take [BEq ι] (given : List (ι × String)) (o : OptionForm ι) (long : Bool) (value : Option String) :
    Except Stop (Option (List (ι × String))) :=
  match o.role, value with
  | .stops s, none => .error s
  | .stops s, some _ => .error (if long then .usage else s)
  | .flag, none => (give given o "").map some
  | .flag, some _ => .error .usage
  | .takes accepts, some v => if accepts v then (give given o v).map some else .error .usage
  | .takes _, none => .ok none

def takeNext [BEq ι] (given : List (ι × String)) (o : OptionForm ι) (word : String) : Except Stop (List (ι × String)) :=
  match o.role, Word.of word with
  | .takes accepts, .bare => if accepts word then give given o word else .error .usage
  | _, _ => .error .usage

/-- Words as options with their values, up to the name of a command. -/
def readFrom [BEq ι] (f : Forms ι) (given : List (ι × String)) : List String → Except Stop (Reading ι)
  | [] => .ok ⟨given, none⟩
  | word :: rest =>
    match Word.of word with
    | .bare => if f.commands.contains word then .ok ⟨given, some (word, rest)⟩ else .error .usage
    | .separator => if rest.isEmpty then .ok ⟨given, none⟩ else .error .usage
    | w =>
      match f.option? w with
      | none => .error .usage
      | some (o, value) =>
        match take given o (word.startsWith "--") value with
        | .error s => .error s
        | .ok (some given) => readFrom f given rest
        | .ok none =>
          match rest with
          | [] => .error .usage
          | next :: rest =>
            match takeNext given o next with
            | .error s => .error s
            | .ok given => readFrom f given rest

def read [BEq ι] (f : Forms ι) (words : List String) : Except Stop (Reading ι) := readFrom f [] words

end Forms

end SchemaMigration.CommandLine
