import StreamWidth.Converter

/-!
Advice on how a converter is registered: one line per check, passed or not.
-/

namespace StreamWidth.Signature

def converterBackend : String :=
  "fpgadataflow"

def domainAdvice (signature : Signature) : String :=
  if signature.domain = converterDomain then "Attribute domain is set correctly"
  else "Attribute domain should be set to \"" ++ converterDomain ++ "\""

def backendAdvice (backend : Option String) : String :=
  if backend = some converterBackend then "Attribute backend is set correctly"
  else "Attribute backend should be set to \"" ++ converterBackend ++ "\""

def inputAdvice (signature : Signature) : String :=
  if signature.inputs.length = 1 then "The number of inputs is correct"
  else "StreamingDWC needs 1 data input"

def advice (signature : Signature) (backend : Option String) : List String :=
  [signature.domainAdvice, backendAdvice backend, signature.inputAdvice]

end StreamWidth.Signature

namespace StreamWidth.Converter

def advice (converter : Converter) : List String :=
  converter.signature.advice converter.attributes.backend

end StreamWidth.Converter
