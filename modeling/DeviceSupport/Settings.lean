import DeviceSupport.Json.Reader
import DeviceSupport.Json.Record
import DeviceSupport.Limits
import DeviceSupport.Fault

/-! The settings: where packages come from, what is accepted as one, and how much is logged.

Settings are written as JSON. In reading, a field that is missing has its default. -/
namespace DeviceSupport
set_option autoImplicit false

structure PackageSettings where
  /-- Directories that are searched, in order. -/
  searchPaths : List String := ["/usr/share/ufdsp/dsp"]
  /-- Extensions of package files, in any case. -/
  extensions : List String := ["fpc", "edp"]
  /-- Larger files are refused unread. -/
  maxBytes : UInt64 := Limits.packageSize
  deriving DecidableEq, Repr, Inhabited

structure LogSettings where
  filter : String := "info"
  deriving DecidableEq, Repr, Inhabited

structure Settings where
  packages : PackageSettings := {}
  logging : LogSettings := {}
  deriving DecidableEq, Repr, Inhabited

/-! ## Writing -/

instance : ToJson PackageSettings where
  toJson s :=
    .object
      [("search_paths", toJson s.searchPaths), ("extensions", toJson s.extensions),
        ("max_package_bytes", toJson s.maxBytes)]

instance : ToJson LogSettings where
  toJson s := .object [("level", toJson s.filter)]

instance : ToJson Settings where
  toJson s := .object [("dsp", toJson s.packages), ("logging", toJson s.logging)]

/-! ## Reading -/

open Json (optional?)

def PackageSettings.ofJson? (value : Json) : Option PackageSettings := do
  let default : PackageSettings := {}
  match ← Json.record? ["search_paths", "extensions", "max_package_bytes"] value with
  | [searchPaths, extensions, maxBytes] =>
    return {
      searchPaths := ← optional? default.searchPaths (Json.list? Json.text?) searchPaths
      extensions := ← optional? default.extensions (Json.list? Json.text?) extensions
      maxBytes := ← optional? default.maxBytes Json.uint64? maxBytes }
  | _ => none

def LogSettings.ofJson? (value : Json) : Option LogSettings := do
  let default : LogSettings := {}
  match ← Json.record? ["level"] value with
  | [filter] => return { filter := ← optional? default.filter Json.text? filter }
  | _ => none

namespace Settings

def ofJson? (value : Json) : Option Settings := do
  match ← Json.record? ["dsp", "logging"] value with
  | [packages, logging] =>
    return {
      packages := ← optional? {} PackageSettings.ofJson? packages
      logging := ← optional? {} LogSettings.ofJson? logging }
  | _ => none

/-- The settings in a text; a limit of zero would refuse every package. -/
def read (source : String) : Except Fault Settings :=
  match (Json.read? source).bind ofJson? with
  | none => .error (.configuration "Failed to parse settings JSON")
  | some settings =>
    if settings.packages.maxBytes = 0 then
      .error (.configuration "dsp.max_package_bytes must be greater than zero")
    else .ok settings

def write (s : Settings) : String := (toJson s).pretty

end Settings

end DeviceSupport
