/-!
Failures that the cloud client reports, by their numeric codes and by the kinds they fall into.
-/

namespace ResourceBroker

inductive CloudErrorKind where
  | invalidParameters
  | notRegistered
  | timeout
  | network
  | responseParse
  | notAllowed
  | bootstrap
  | secureConnection
  | dnsResolving
  | outOfMemory
  | unknown
deriving DecidableEq, Repr

def CloudErrorKind.name : CloudErrorKind → String
  | .invalidParameters => "CLOUD_INVALID_PARAMETERS"
  | .notRegistered => "CLOUD_NOT_REGISTERED"
  | .timeout => "CLOUD_TIMEOUT"
  | .network => "CLOUD_NETWORK_ERROR"
  | .responseParse => "CLOUD_RESPONSE_PARSE_FAILED"
  | .notAllowed => "CLOUD_NOT_ALLOWED"
  | .bootstrap => "CLOUD_BOOTSTRAP_FAILED"
  | .secureConnection => "CLOUD_SECURE_CONNECTION_FAILED"
  | .dnsResolving => "CLOUD_DNS_RESOLVING_FAILED"
  | .outOfMemory => "CLOUD_OUT_OF_MEMORY"
  | .unknown => "CLOUD_UNKNOWN_ERROR"

inductive CloudClientError where
  | alreadyExists
  | bootstrapFailed
  | invalidParameters
  | notRegistered
  | timeout
  | networkError
  | responseParseFailed
  | unknownError
  | memoryConnectFail
  | notAllowed
  | secureConnectionFailed
  | dnsResolvingFailed
  | failedToStoreCredentials
  | failedToReadCredentials
  | invalidCredentials
deriving DecidableEq, Repr

namespace CloudClientError

/-- The numbers 8 and 13 to 15 are not assigned; they and all others are unknown errors. -/
def ofCode : Int → CloudClientError
  | 1 => .alreadyExists
  | 2 => .bootstrapFailed
  | 3 => .invalidParameters
  | 4 => .notRegistered
  | 5 => .timeout
  | 6 => .networkError
  | 7 => .responseParseFailed
  | 9 => .memoryConnectFail
  | 10 => .notAllowed
  | 11 => .secureConnectionFailed
  | 12 => .dnsResolvingFailed
  | 16 => .failedToStoreCredentials
  | 17 => .failedToReadCredentials
  | 18 => .invalidCredentials
  | _ => .unknownError

def kind : CloudClientError → CloudErrorKind
  | .alreadyExists | .invalidParameters => .invalidParameters
  | .notRegistered => .notRegistered
  | .timeout => .timeout
  | .networkError => .network
  | .responseParseFailed => .responseParse
  | .notAllowed => .notAllowed
  | .bootstrapFailed | .failedToStoreCredentials | .failedToReadCredentials | .invalidCredentials =>
    .bootstrap
  | .secureConnectionFailed => .secureConnection
  | .dnsResolvingFailed => .dnsResolving
  | .memoryConnectFail => .outOfMemory
  | .unknownError => .unknown

def name : CloudClientError → String
  | .alreadyExists => "AlreadyExists"
  | .bootstrapFailed => "BootstrapFailed"
  | .invalidParameters => "InvalidParameters"
  | .notRegistered => "NotRegistered"
  | .timeout => "Timeout"
  | .networkError => "NetworkError"
  | .responseParseFailed => "ResponseParseFailed"
  | .unknownError => "UnknownError"
  | .memoryConnectFail => "MemoryConnectFail"
  | .notAllowed => "NotAllowed"
  | .secureConnectionFailed => "SecureConnectionFailed"
  | .dnsResolvingFailed => "DnsResolvingFailed"
  | .failedToStoreCredentials => "FailedToStoreCredentials"
  | .failedToReadCredentials => "FailedToReadCredentials"
  | .invalidCredentials => "InvalidCredentials"

end CloudClientError
end ResourceBroker
