import SpbAccelerometer.Basic
import SpbAccelerometer.ClientMap
import SpbAccelerometer.ClientManager
import SpbAccelerometer.Arbitration
import SpbAccelerometer.Registry
import SpbAccelerometer.ReportInterval
import SpbAccelerometer.Contract
import SpbAccelerometer.Adxl345
import SpbAccelerometer.AccelerometerDevice
import SpbAccelerometer.SensorDevice
import SpbAccelerometer.Hardware
import SpbAccelerometer.Faults
import SpbAccelerometer.Threads
import SpbAccelerometer.Interleaving
import SpbAccelerometer.DataPaths
import SpbAccelerometer.SupportedKeys
import SpbAccelerometer.Caches
import SpbAccelerometer.SetProperties
import SpbAccelerometer.Initialize
import SpbAccelerometer.SensorDdi
import SpbAccelerometer.Resources
import SpbAccelerometer.InitializeDevice
import SpbAccelerometer.PowerCycle
