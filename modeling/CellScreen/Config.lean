import CellScreen.Font.Basic
import CellScreen.Scheme

/-! Configuration of a display. -/
namespace CellScreen

structure Config where
  fontFamily : String := "monospace"
  fontSize : Number.Single := Number.Single.ofNat 12
  dpi : Nat := 96
  columns : Nat := 80
  rows : Nat := 24
  colorScheme : String := "gray-black"
deriving DecidableEq

inductive ConfigError where
  | malformed
  | unreadable
  | scheme (error : SchemeError)
deriving DecidableEq, Repr

def ConfigError.message : ConfigError → String
  | .malformed => "JSON error"
  | .unreadable => "IO error"
  | .scheme error => s!"Color scheme error: {error.message}"

namespace Config

def font (config : Config) : Font := ⟨config.fontFamily, config.fontSize⟩

def scheme (config : Config) : Except ConfigError Scheme :=
  (Scheme.ofSpec config.colorScheme).mapError .scheme

end Config
end CellScreen
