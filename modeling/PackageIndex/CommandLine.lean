import PackageIndex.Text.Digits
/-!
Command lines. An option is a name after two dashes; its value follows it, or an equals
sign in the same argument. Two dashes alone end the options. An argument that begins with
a dash is never a value, unless it is the dash alone. Arguments are taken in their order,
so the first that asks for help or is in error decides.
-/
namespace PackageIndex.CommandLine

/-- Why a command line is not carried out. -/
inductive Stop where
  | help
  | usage
  deriving DecidableEq

def Stop.code : Stop → Nat
  | .help => 0
  | .usage => 2

inductive Kind where
  | flag
  | value
  deriving DecidableEq

inductive Item where
  | flag (name : String)
  | option (name value : String)
  | operand (text : String)
  | stop (why : Stop)
  deriving DecidableEq

/-- What an argument is, by its dashes. -/
inductive Shape where
  | escape
  | long (name : String) (attached : Option String)
  /-- The letters after a single dash. -/
  | short (letters : List Char)
  | plain
  deriving DecidableEq

def shape (arg : String) : Shape :=
  match arg.toList with
  | ['-', '-'] => .escape
  | '-' :: '-' :: cs =>
    let name := String.ofList (cs.takeWhile (· ≠ '='))
    match cs.dropWhile (· ≠ '=') with
    | [] => .long name none
    | _ :: attached => .long name (some (String.ofList attached))
  | ['-'] => .plain
  | '-' :: letters => .short letters
  | _ => .plain

/-- What a name stands for; the name of the help is always known. -/
def known? (kinds : List (String × Kind)) (name : String) : Option Kind :=
  if name = "help" then some .flag else kinds.lookup name

def flagItem (name : String) : Item := if name = "help" then .stop .help else .flag name

/-- The items of the arguments, up to the first that is in error by itself. -/
def items (kinds : List (String × Kind)) : List String → List Item
  | [] => []
  | arg :: rest =>
    match shape arg with
    | .escape => rest.map .operand
    | .plain => .operand arg :: items kinds rest
    | .short letters => [.stop (if letters.head? = some 'h' then .help else .usage)]
    | .long name attached =>
      match known? kinds name, attached with
      | none, _ => [.stop .usage]
      | some .flag, some _ => [.stop .usage]
      | some .flag, none => flagItem name :: items kinds rest
      | some .value, some value => .option name value :: items kinds rest
      | some .value, none =>
        match rest with
        | [] => [.stop .usage]
        | value :: rest =>
          if shape value = .plain then .option name value :: items kinds rest
          else [.stop .usage]

/-- Takes the items in order. -/
def read (kinds : List (String × Kind)) (take : α → Item → Except Stop α) (start : α)
    (args : List String) : Except Stop α :=
  (items kinds args).foldlM
    (fun a item => match item with
      | .stop why => .error why
      | item => take a item)
    start

/-- Enters a value that may be given only once. -/
def once (old : Option α) (new : Option α) : Except Stop (Option α) :=
  match old, new with
  | none, some a => .ok (some a)
  | _, _ => .error .usage

open Text

/-- Reads a number below a bound, with a plus sign or without. -/
def natural? (bound : Nat) (text : String) : Option Nat :=
  let magnitude? := match text.toList with
    | '+' :: cs => Text.natural? cs
    | cs => Text.natural? cs
  magnitude?.filter (· < bound)

/-- Reads a number below a bound, with any sign; only zero may have a minus sign. -/
def signed? (bound : Nat) (text : String) : Option Nat :=
  match text.toList with
  | '-' :: cs => (Text.natural? cs).filter (· = 0)
  | _ => natural? bound text

end PackageIndex.CommandLine
