import HmacClient.Text.Utf8
import HmacClient.Text.Format
import HmacClient.Time.Calendar
import HmacClient.Time.IsoFormat
import HmacClient.Text.Uuid
import HmacClient.Time.TotalSeconds
import HmacClient.Crypto.Hmac
import HmacClient.Client.Run
import HmacClient.Client.Config
import HmacClient.Client.Sign
import HmacClient.Text.Json
import HmacClient.Text.JsonInjective
import HmacClient.Client.Request
import HmacClient.Client.Errors
import HmacClient.Client.RoundTrip
import HmacClient.Client.KeySeparation
import HmacClient.Client.Binding
import HmacClient.Client.Acceptance
import HmacClient.Client.Protocol
import HmacClient.Client.HeaderReuse
