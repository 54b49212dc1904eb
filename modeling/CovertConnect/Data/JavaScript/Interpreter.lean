import CovertConnect.Data.Exec
import CovertConnect.Data.JavaScript.Parser
import CovertConnect.Data.JavaScript.Regex

namespace CovertConnect.Data.JavaScript

/-! # A part of JavaScript: evaluation

A call of one function of a script.  The functions that the host gives to the
script are a parameter.  A construct that is left out ends a run as
`unsupported`. -/

inductive Value where
  | undefined
  | bool (value : Bool)
  /-- Scripts only count here, so a number is a whole one. -/
  | number (value : Int)
  | text (value : Text)
  | array (items : List Value)
  | regex (pieces : List Piece)
  /-- A function of the host. -/
  | native (name : String)
  /-- A function of the script. -/
  | declared (name : String)

inductive Throw where
  | syntaxError
  | referenceError (name : String)
  | typeError
  | unsupported
deriving DecidableEq, Repr

/-- The variables that a call sees: its parameters and the global ones. -/
abbrev Scope := String → Option Value

abbrev Natives := String → Option (List Value → Value)

namespace Scope

def assign (name : String) (value : Value) (this : Scope) : Scope :=
  Function.update this name (some value)

@[simp] theorem assign_same (name : String) (value : Value) (this : Scope) :
    this.assign name value name = some value :=
  Function.update_self ..

theorem assign_other {name other : String} (differ : other ≠ name) (value : Value)
    (this : Scope) : this.assign name value other = this other :=
  Function.update_of_ne differ ..

end Scope

def truthy : Value → Bool
  | .undefined => false
  | .bool value => value
  | .number value => value ≠ 0
  | .text value => value ≠ []
  | .array _ | .regex _ | .native _ | .declared _ => true

def apply : Operator → Value → Value → Outcome Throw Value
  | .notEqual, .number left, .number right => .ok (.bool (left ≠ right))
  | .notEqual, .text left, .text right => .ok (.bool (left ≠ right))
  | .less, .number left, .number right => .ok (.bool (left < right))
  | .greater, .number left, .number right => .ok (.bool (right < left))
  | .plus, .number left, .number right => .ok (.number (left + right))
  | .plus, .text left, .text right => .ok (.text (left ++ right))
  | .minus, .number left, .number right => .ok (.number (left - right))
  | _, _, _ => .err .unsupported

def negate : Value → Outcome Throw Value
  | .number value => .ok (.number (-value))
  | _ => .err .unsupported

def property : Value → String → Outcome Throw Value
  | .undefined, _ => .err .typeError
  | .array items, "length" => .ok (.number items.length)
  | .text value, "length" => .ok (.number value.length)
  | _, _ => .err .unsupported

def element : Value → Value → Outcome Throw Value
  | .undefined, _ => .err .typeError
  | .array items, .number position =>
      if position < 0 then .ok .undefined else .ok (items.getD position.toNat .undefined)
  | _, _ => .err .unsupported

def isText (wanted : Text) : Value → Bool
  | .text value => value = wanted
  | _ => false

/-- What `join` writes for an item. -/
def joined : Value → Outcome Throw Text
  | .undefined => .ok []
  | .text value => .ok value
  | _ => .err .unsupported

def joinedAll : List Value → Outcome Throw (List Text)
  | [] => .ok []
  | item :: items => do
      let text ← joined item
      let texts ← joinedAll items
      return text :: texts

def sliceFrom (items : List Value) (start : Int) : List Value :=
  if start < 0 then items.drop (items.length + start).toNat else items.drop start.toNat

def indexOf (items : List Value) (wanted : Text) : Int :=
  match items.findIdx? (isText wanted) with
  | some position => position
  | none => -1

def method (object : Value) (name : String) (arguments : List Value) : Outcome Throw Value :=
  match object, name, arguments with
  | .undefined, _, _ => .err .typeError
  | .regex pieces, "test", [.text value] => .ok (.bool (test pieces value))
  | .text value, "split", [.text [separator]] =>
      .ok (.array ((value.splitOn separator).map .text))
  | .array items, "slice", [.number start] => .ok (.array (sliceFrom items start))
  | .array items, "join", [.text separator] => do
      let texts ← joinedAll items
      return .text (separator.intercalate texts)
  | .array items, "indexOf", [.text wanted] => .ok (.number (indexOf items wanted))
  | _, _, _ => .err .unsupported

def callValue (natives : Natives) (function : Value) (arguments : List Value) :
    Outcome Throw Value :=
  match function with
  | .native name =>
      match natives name with
      | some body => .ok (body arguments)
      | none => .err .unsupported
  | .declared _ => .err .unsupported
  | _ => .err .typeError

section Natives

variable (natives : Natives)

def lookup (name : String) : Exec Scope Throw Value := do
  let scope ← Exec.get
  match scope name with
  | some value => return value
  | none => if (natives name).isSome then return .native name else Exec.fail (.referenceError name)

def increment : Value → Outcome Throw Int
  | .number value => .ok (value + 1)
  | _ => .err .unsupported

mutual

def eval : Expr → Exec Scope Throw Value
  | .number value => pure (.number value)
  | .text value => pure (.text value)
  | .regex body =>
      match parseRegex body with
      | some pieces => pure (.regex pieces)
      | none => Exec.fail .unsupported
  | .name name => lookup natives name
  | .array items => do
      let values ← evalAll items
      return .array values
  | .member object name => do
      let object ← eval object
      Exec.lift (property object name)
  | .index object position => do
      let object ← eval object
      let position ← eval position
      Exec.lift (element object position)
  | .call (.member object name) arguments => do
      let object ← eval object
      let values ← evalAll arguments
      Exec.lift (method object name values)
  | .call callee arguments => do
      let function ← eval callee
      let values ← evalAll arguments
      Exec.lift (callValue natives function values)
  | .negate operand => do
      let value ← eval operand
      Exec.lift (negate value)
  | .binary .or left right => do
      let value ← eval left
      if truthy value then return value else eval right
  | .binary operator left right => do
      let left ← eval left
      let right ← eval right
      Exec.lift (apply operator left right)
  | .assign name value => do
      let value ← eval value
      Exec.modify (Scope.assign name value)
      return value
  | .increment name => do
      let value ← lookup natives name
      let next ← Exec.lift (increment value)
      Exec.modify (Scope.assign name (.number next))
      return value

def evalAll : List Expr → Exec Scope Throw (List Value)
  | [] => pure []
  | expr :: exprs => do
      let value ← eval expr
      let values ← evalAll exprs
      return value :: values

end

inductive Completion where
  | normal
  | broken
  | returned (value : Value)

/-- The turns of a loop; fuel bounds their number. -/
def loop (condition update : Exec Scope Throw Value) (body : Exec Scope Throw Completion) :
    Nat → Exec Scope Throw Completion
  | 0 => Exec.abort "out of fuel"
  | fuel + 1 => do
      let value ← condition
      if truthy value then
        let completion ← body
        match completion with
        | .returned value => return .returned value
        | .broken => return .normal
        | .normal =>
            let _ ← update
            loop condition update body fuel
      else return .normal

mutual

def exec (fuel : Nat) : Stmt → Exec Scope Throw Completion
  | .expr expr => do
      let _ ← eval natives expr
      return .normal
  | .conditional condition body => do
      let value ← eval natives condition
      if truthy value then exec fuel body else return .normal
  | .forLet name init condition update body => do
      let value ← eval natives init
      let outer ← Exec.get
      Exec.modify (Scope.assign name value)
      let completion ←
        loop (eval natives condition) (eval natives update) (exec fuel body) fuel
      -- The loop's variable hides an outer one of its name while it runs.
      Exec.modify fun scope => Function.update scope name (outer name)
      return completion
  | .return none => return .returned .undefined
  | .return (some expr) => do
      let value ← eval natives expr
      return .returned value
  | .break => return .broken
  | .block statements => execAll fuel statements

def execAll (fuel : Nat) : List Stmt → Exec Scope Throw Completion
  | [] => return .normal
  | statement :: statements => do
      let completion ← exec fuel statement
      match completion with
      | .normal => execAll fuel statements
      | completion => return completion

end

/-- A missing argument is `undefined`, and one too many is dropped. -/
def bindParameters : List String → List Value → Scope → Scope
  | [], _, scope => scope
  | name :: names, [], scope => bindParameters names [] (scope.assign name .undefined)
  | name :: names, value :: values, scope => bindParameters names values (scope.assign name value)

def callFunction (fuel : Nat) (function : Function) (arguments : List Value) (globals : Scope) :
    Outcome Throw Value := do
  let completion ←
    (execAll natives fuel function.body (bindParameters function.parameters arguments globals)).1
  match completion with
  | .returned value => return value
  | .normal => return .undefined
  -- There is no `break` outside a loop.
  | .broken => .err .syntaxError

def declare (functions : List Function) : Scope :=
  functions.foldl (fun scope function => scope.assign function.name (.declared function.name))
    fun _ => none

/-- A fresh evaluation of the script and a call of its function. -/
def evaluate (fuel : Nat) (source : List Char) (name : String) (arguments : List Value) :
    Outcome Throw Value :=
  match parse source with
  | none => .err .syntaxError
  | some functions =>
      -- A later declaration replaces one of the same name.
      match functions.reverse.find? fun function => function.name = name with
      | none => .err (.referenceError name)
      | some function => callFunction natives fuel function arguments (declare functions)

end Natives

end CovertConnect.Data.JavaScript
