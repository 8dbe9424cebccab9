import FluentBuilder.Code.Grammar.DataRules

/-!
# Rules for functions

* `signatureRule`: the head of a function.
* `atSignature`: whether the head of a function stands at the head of the input.
* `Signature.item`: the function with its body.
-/

namespace FluentBuilder.Code

/-- The head of a function. -/
structure Signature where
  head : FunctionHead
  /-- Whether the function is marked as safe, for which there is no tree. -/
  isSafe : Bool
  generics : Generics
  params : List Pattern
  trailing : Bool
  output : Option TypeExpr

/-- The function with its body, if it has one. -/
def Signature.item (s : Signature) (body : Option (List Meta × List Statement)) : Item :=
  let (attributes, statements) := body.getD ([], [])
  .function s.head s.generics s.params s.trailing s.output body.isSome attributes statements

/-- The input behind a word, if the word is there. -/
def skipWord (name : String) (input : Tokens) : Tokens :=
  if atWord name input then input.drop 1 else input

/-- Whether the head of a function stands at the head of the input; `safe` says whether a function
may be marked as safe. -/
def atSignature (safe : Bool) (input : Tokens) : Bool :=
  let marked := skipWord "async" (skipWord "const" input)
  let marked := if safe && atWord "safe" marked then marked.drop 1 else skipWord "unsafe" marked
  let marked :=
    if atWord "extern" marked then
      if atString (marked.drop 1) then marked.drop 2 else marked.drop 1
    else marked
  atWord "fn" marked

/-- A receiver: the value on which a method is called. -/
def receiverRule (g : Grammar) : Parser Pattern := do
  let borrow ← if ← punct? "&" then pure (some (← lifetime?)) else pure none
  let mutable ← keyword? "mut"
  keyword "self"
  if borrow.isNone && (← look (atPunct ":")) then
    punct ":"
    return .receiver borrow mutable (some (← g.type true))
  else return .receiver borrow mutable none

/-- A parameter of a function, or its `...` with an optional name in front, behind the
attributes. -/
def paramRule (g : Grammar) : Parser Pattern := do
  if ← punct? "..." then return .variadic
  else if (← ahead (receiverRule g)).isSome then receiverRule g
  else if ← look fun s => atIdentifier s && atPunct "<" (s.drop 1) then
    return .typed .wild (← g.type true)
  else
    let pattern ← g.pattern
    punct ":"
    if ← punct? "..." then return .namedVariadic pattern else return .typed pattern (← g.type true)

/-- The parameters of a function, and whether a comma closes them.  Only the first of them can be a
receiver, and only the last can be the `...`. -/
def paramsAt (g : Grammar) (first : Bool) : Nat → Parser (List Pattern × Bool)
  | 0 => failure
  | fuel + 1 => do
    if ← look List.isEmpty then return ([], true)
    else
      let attributes ← outerAttributesRule g
      let param := (← paramRule g).withAttributes attributes
      if !first && param.isReceiver then failure
      if ← look List.isEmpty then return ([param], false)
      else
        punct ","
        if param.isVariadic then return ([param], true)
        else
          let (others, trailing) ← paramsAt g false fuel
          return (param :: others, trailing)

/-- The head of a function; `safe` says whether it may be marked as safe. -/
def signatureRule (g : Grammar) (isDefault safe : Bool) : Parser Signature := do
  let isConst ← keyword? "const"
  let isAsync ← keyword? "async"
  let isSafe ← if safe then keyword? "safe" else pure false
  let isUnsafe ← if isSafe then pure false else keyword? "unsafe"
  let linkage ← linkageRule
  keyword "fn"
  let name ← identifier
  let generics ← itemParamsRule g
  let (params, trailing) ← inside .paren fun input => paramsAt g true (input.length + 1) input
  let output ← outputRule g true
  let conditions ← conditionsRule g
  return {
    head := ⟨isDefault, isConst, isAsync, isUnsafe, linkage, name⟩
    isSafe, generics := .of generics conditions, params, trailing, output }

end FluentBuilder.Code
