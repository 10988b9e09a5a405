import Storefront.Settings.Library

namespace Storefront.Settings

inductive Layer where
  | file (path : String)
  | optionalFile (path : String)
  | override (key : String) (value : Tree)
  deriving Repr

def defaultDocument : String :=
  String.join
    ["# Default configuration for the block engine toolchain.\n",
      "#\n",
      "# Every key is documented here and loaded at runtime, so this file is the\n",
      "# reference for what can be overridden in a user \x60blocks.toml\x60.\n",
      "\n",
      "[bindings]\n",
      "# Event targets starting with one of these prefixes are binding paths into\n",
      "# the current scope. Anything else is used literally.\n",
      "scope_prefixes = [\"item.\", \"product.\", \"slide.\"]\n",
      "\n",
      "[repeater]\n",
      "# Data binding on a repeater block that holds the collection to iterate.\n",
      "items_binding = \"items\"\n",
      "# Scope variables pushed for every iteration.\n",
      "item_alias = \"item\"\n",
      "index_alias = \"index\"\n",
      "\n",
      "[log]\n",
      "# Default tracing filter for the CLI. RUST_LOG takes precedence when set.\n",
      "level = \"warn\"\n"]

structure Loader [Library] where
  builder : Library.Builder

namespace Loader

variable [Library]

def new : Loader := { builder := Library.addSource Library.builder (.text defaultDocument) }

def withFile (l : Loader) (path : String) : Loader := { builder := Library.addSource l.builder (.file path true) }

def withOptionalFile (l : Loader) (path : String) : Loader :=
  { builder := Library.addSource l.builder (.file path false) }

def setOverride (l : Loader) (key : String) (value : Tree) : Except Fault Loader := do
  return { builder := ← Library.setOverride l.builder key value }

def layered (l : Loader) : Layer → Except Fault Loader
  | .file path => .ok (l.withFile path)
  | .optionalFile path => .ok (l.withOptionalFile path)
  | .override key value => l.setOverride key value

def build (l : Loader) (files : Files) : Except Fault Settings := do
  Library.deserialize (← Library.build l.builder files)

end Loader

def load [Library] (files : Files) (layers : List Layer) : Except Fault Settings := do
  (← layers.foldlM Loader.layered .new).build files

end Storefront.Settings
