import GoOidc.Vocabulary
import GoOidc.Slice
import GoOidc.AuthnSession
import GoOidc.Authorize
import GoOidc.Authorize.Interleaving
import GoOidc.AuthorizationParameters
import GoOidc.Resources
import GoOidc.AuthorizationDetail
import GoOidc.RequestHeaders
import GoOidc.ClientAuthn
import GoOidc.Time
import GoOidc.ClientAssertion
import GoOidc.Configuration
import GoOidc.Provider
import GoOidc.KeyRing
import GoOidc.StartupValidation
import GoOidc.DCR.Validation
import GoOidc.DCR.ClientRequest
import GoOidc.RefreshToken.Grant
import GoOidc.RefreshToken.AnyStore
import GoOidc.RefreshToken.Concurrency
import GoOidc.Introspection
