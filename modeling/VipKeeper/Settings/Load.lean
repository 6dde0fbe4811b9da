import VipKeeper.Host.Files
import VipKeeper.Settings.Basic
import VipKeeper.Yaml.Document

/-! Where settings come from. -/

namespace VipKeeper

inductive SettingsFault where
  | notFound (path : String)
  | unreadable (problem : FileProblem)
  | malformed
  | invalid (complaints : List Settings.Complaint)
  deriving DecidableEq

namespace SettingsFault

def message : SettingsFault → String
  | notFound path => "Configuration file not found: " ++ path
  | unreadable problem => "Failed to read configuration file: " ++ problem.message
  | malformed => "Failed to parse YAML: malformed document"
  | invalid complaints =>
    "Invalid configuration: " ++
      String.intercalate ", " (complaints.map (fun (name, problem) => name ++ ": " ++ problem.code))

end SettingsFault

namespace Settings

/-- Reads settings from the text of a file. -/
def parse (text : String) : Except SettingsFault Settings :=
  match Yaml.decode? Settings.read? text with
  | none => .error .malformed
  | some settings =>
    if settings.complaints.isEmpty then .ok settings else .error (.invalid settings.complaints)

def loadFile (files : Files) (path : String) : Except SettingsFault Settings :=
  match files.readText path with
  | .ok text => parse text
  | .error problem => .error (.unreadable problem)

/-- The places of a settings file, the first of which counts. -/
def places (home : Option String) : List String :=
  "/etc/lb-sync/lb-sync.yaml" :: home.toList.map (fun home => Path.inside home ".config/lb-sync/lb-sync.yaml") ++
    ["./lb-sync.yaml"]

/-- Reads the named file, which must be there, or else the first file at one of the places. Without any file
the defaults hold. -/
def load (files : Files) (named home : Option String) : Except SettingsFault Settings :=
  match named with
  | some path => if files.isFile path then loadFile files path else .error (.notFound path)
  | none =>
    match (places home).find? files.isFile with
    | some path => loadFile files path
    | none => .ok default

end Settings

end VipKeeper
