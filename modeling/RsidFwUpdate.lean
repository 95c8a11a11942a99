import RsidFwUpdate.Loop
import RsidFwUpdate.Stream
import RsidFwUpdate.Prompt
import RsidFwUpdate.Version
import RsidFwUpdate.Args
import RsidFwUpdate.Device
import RsidFwUpdate.Wait
import RsidFwUpdate.Cli
import RsidFwUpdate.Main
import RsidFwUpdate.MainSpec
import RsidFwUpdate.Run
