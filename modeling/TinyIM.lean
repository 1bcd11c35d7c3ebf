import TinyIM.Pool
import TinyIM.Attribution
import TinyIM.Registry
import TinyIM.Friends
import TinyIM.Teardown
import TinyIM.Arrival
import TinyIM.Codec
import TinyIM.Ids
import TinyIM.Handshakes
import TinyIM.DeliveryOrder
import TinyIM.FriendTable
import TinyIM.Replay
import TinyIM.Consent
import TinyIM.FriendList
import TinyIM.Correlation
import TinyIM.Notifications
import TinyIM.FriendRows
import TinyIM.Utils
import TinyIM.Conversation
import TinyIM.ViewOrder
import TinyIM.Typed
import TinyIM.Forms
import TinyIM.ServiceRefinement
import TinyIM.WindowView
import TinyIM.LogThread
import TinyIM.Drain
import TinyIM.Secrets
import TinyIM.Durability
import TinyIM.Recipients
