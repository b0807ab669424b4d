import EventDispatch.Config.Toml

namespace EventDispatch

/-- The last component of a path that has one; `.` and `..` name no file. -/
def fileName? (path : String) : Option (List Char) :=
  let parts := (path.splitOn "/").filter fun p => p != "" && p != "."
  (parts.getLast?.filter (· != "..")).map String.toList

/-- What follows the last dot of a file's name, unless the dot begins it. -/
def extension? (path : String) : Option String :=
  (fileName? path).bind fun name =>
    let ext := (name.reverse.takeWhile (· != '.')).reverse
    if ext.length + 1 < name.length then some (String.ofList ext) else none

namespace Config

/-- The settings in a file with this content, in the format that its extension names, if there is such a
file. -/
def ofFile (path : String) (content : Option Bytes) : Except ConfigError Config :=
  match content with
  | none => .error (.unreadable path .notFound)
  | some bytes =>
    match Text.ofUtf8? bytes with
    | none => .error (.unreadable path .notText)
    | some text =>
      match extension? path with
      | some "json" => ofJsonText text
      | some "toml" => ofTomlText text
      | other => .error (.unknownExtension (other.getD "") path)

end Config
end EventDispatch
