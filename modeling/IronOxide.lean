import IronOxide.Rust
import IronOxide.Internal.Error
import IronOxide.Internal.Validate
import IronOxide.Internal.ValidateSpec
import IronOxide.Crypto.Ring
import IronOxide.Crypto.Aes
import IronOxide.Crypto.Codec
import IronOxide.Crypto.Escrow
import IronOxide.Internal.Keys
import IronOxide.UserApi.Backend
import IronOxide.UserApi.Lifecycle
import IronOxide.UserApi.SignedMessage
import IronOxide.UserApi.LifecycleSpec
import IronOxide.UserApi.KeyList
import IronOxide.UserApi.DeviceList
import IronOxide.UserApi.Account
import IronOxide.UserApi.Session
import IronOxide.UserApi.EscrowServer
