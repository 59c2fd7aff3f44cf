import MediaStreamer.Libc
import MediaStreamer.CryptoSuite
import MediaStreamer.Stream
import MediaStreamer.Lifecycle
import MediaStreamer.Events
import MediaStreamer.Security
import MediaStreamer.Tmmbr
import MediaStreamer.Fmtp
import MediaStreamer.Fec
import MediaStreamer.VideoToolbox
import MediaStreamer.VideoToolboxSession
import MediaStreamer.VideoToolboxOutput
import MediaStreamer.Ticker
import MediaStreamer.MediaCodec
import MediaStreamer.MediaCodecFilter
import MediaStreamer.Setup
