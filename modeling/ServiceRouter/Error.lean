/-!
# Errors

The error enumerations of the source, with the data their variants carry.
-/

namespace ServiceRouter

inductive ConfigError where
  | fileNotFound (path : String)
  | readError (reason : String)
  | parseError (reason : String)
  | missingEnvVar (name : String)
  | invalidRegex (routeId pattern reason : String)
  | invalidGlob (routeId pattern reason : String)
  | missingTarget (routeId : String)
  | validation (reason : String)
  deriving DecidableEq, Repr

inductive RegistryError where
  | http (reason : String)
  | unexpectedResponse (reason : String)
  | serviceNotFound (service : String)
  | authFailed
  | allFailed (service : String)
  deriving DecidableEq, Repr

inductive ProxyError where
  | noInstances (service : String)
  | upstreamConnection (reason : String)
  | registry (error : RegistryError)
  | wsUpgrade (reason : String)
  | bodyRead (reason : String)
  | pluginError (reason : String)
  deriving DecidableEq, Repr

end ServiceRouter
