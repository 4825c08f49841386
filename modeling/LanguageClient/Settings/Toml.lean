import LanguageClient.Settings
import LanguageClient.Toml.Reader

/-! Settings as they are written in TOML files. -/
namespace LanguageClient.Settings

def ofToml? (text : String) : Option Settings := do
  let value ← Toml.parse? text
  (decodeWith true value.toShape).toOption

def initialToml : String :=
  "[server]\nexecutable_path = \"lean\"\nshutdown_timeout_secs = 5\n\n" ++
    "[server.logging]\nenabled = false\npath = \".\"\n"

end LanguageClient.Settings
