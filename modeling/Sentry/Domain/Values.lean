import Mathlib.Data.Rat.Defs
import Sentry.Support.Tree

/-!
# Values of any type

What an argument of type `Any` can hold: containers of the built-in types, numbers and texts,
exceptions, classes, and objects of which only the name of their type is used.
-/
namespace Sentry

open Support

/-- A key of a mapping. -/
inductive AnyKey where
  | str (text : String)
  | int (value : ℤ)
  | bool (value : Bool)
  | other
  deriving DecidableEq

/-- A value that is no container. An exception has its own contents beside its class. -/
inductive AnyLeaf where
  | none
  | bool (value : Bool)
  | int (value : ℤ)
  | float (value : ℚ)
  | infinity (negative : Bool)
  | nan
  | str (text : String)
  | exception (class_ : String) (contents : String)
  | type (name metaclass : String) (isException : Bool)
  | object (type : String) (contents : String)
  deriving DecidableEq

abbrev AnyValue := Tree AnyKey AnyLeaf

end Sentry
