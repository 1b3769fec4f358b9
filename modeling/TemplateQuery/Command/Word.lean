namespace TemplateQuery.Command

inductive Switch where
  | template
  | includeEmpty
  | legacy
  | version
  | help
deriving DecidableEq, Inhabited

namespace Switch

def text : Switch → String
  | .template => "--template"
  | .includeEmpty => "--include-empty"
  | .legacy => "--legacy"
  | .version => "--version"
  | .help => "--help"

def ofLong? : String → Option Switch
  | "template" => some .template
  | "include-empty" => some .includeEmpty
  | "legacy" => some .legacy
  | "version" => some .version
  | "help" => some .help
  | _ => none

end Switch

inductive Word where
  | plain (text : String)
  | endOfSwitches
  | switch (s : Switch) (value : Option String)
  | unknown (text : String)
deriving DecidableEq, Inhabited

namespace Word

def splitValue : List Char → List Char × Option (List Char)
  | [] => ([], none)
  | c :: rest =>
    if c = '=' then ([], some rest)
    else (c :: (splitValue rest).1, (splitValue rest).2)

def ofLong (text : String) (cs : List Char) : Word :=
  let (name, value) := splitValue cs
  match Switch.ofLong? (String.ofList name) with
  | some s => .switch s (value.map String.ofList)
  | none => .unknown text

def ofShort (text : String) : Char → List Char → Word
  | 't', [] => .switch .template none
  | 't', '=' :: value => .switch .template (some (String.ofList value))
  | 't', value => .switch .template (some (String.ofList value))
  | 'V', _ => .switch .version none
  | 'h', _ => .switch .help none
  | _, _ => .unknown text

def ofText (text : String) : Word :=
  match text.toList with
  | ['-', '-'] => .endOfSwitches
  | '-' :: '-' :: rest => ofLong text rest
  | '-' :: c :: rest => ofShort text c rest
  | _ => .plain text

def ofTexts : List String → List Word
  | [] => []
  | text :: rest =>
    match ofText text with
    | .endOfSwitches => .endOfSwitches :: rest.map .plain
    | .switch .template none =>
      match rest with
      | [] => [.switch .template none]
      | next :: rest =>
        match ofText next with
        | .plain value => .switch .template (some value) :: ofTexts rest
        | _ => [.switch .template none]
    | word => word :: ofTexts rest

end Word

end TemplateQuery.Command
