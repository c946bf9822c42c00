/-! The names of characters that begin with C. -/

namespace LineScript.Text

/-- The names that begin with the letter C, packed. -/
def namesC : String :=
  "aCACTUScDA UNAdUCEUScLENDARdL ME HANDcMERAg WITH FLASHdPINGcNdADIAN SYLLABICS AuAvIvYuIvVILIK BuN
uTHAPASCAN MzSCAN SuYtBEAVER DENE Lz DENE RuIBLE-CREE YuLACKFOOT AzOOT EzOOT IzOOT KAzOOT KEzOOT KIzOOT KO
zOOT NAzOOT NEzOOT NIzOOT NOzOOT OzOOT SzOOT WzOOT WAzOOT WEzOOT WIzOOT WOtCuAvAwIvRRIER CHAzR CHEzR CHEE
zR CHIzR CHOzR CHUzR DEEzR DENE GEEzR DENTAL SzR DIzR DLAzR DLEzR DLEEzR DLIzR DLOzR DLUzR DZAzR DZEzR DZEE
zR DZIzR DZOzR DZUzR EEzR GAzR GAAzR GEzR GEEzR GHAzR GHEzR GHEEzR GHIzR GHOzR GHUzR GIzR GOzR GUzR GWA
zR GWUzR HzR HEEzR HIzR HWAzR HWEzR HWEEzR HWIzR HWOzR HWUzR IzR INITIAL ZzR JAzR JEzR JEEzR JIzR JJAzR JJE
zR JJEEzR JJIzR JJOzR JJUzR JOzR JUzR JWAzR KHAzR KHEzR KHEEzR KHIzR KHOzR KHUzR KKzR KKAzR KKEzR KKEEzR KKI
zR KKOzR KKUzR LAzR LEzR LEEzR LHAzR LHEzR LHEEzR LHIzR LHOzR LHUzR LIzR LOzR LUzR MAzR MEzR MEEzR MIzR MO
zR MUzR NAzR NEzR NEEzR NGzR NIzR NOzR NUzR PzR PAzR PEzR PEEzR PIzR POzR PUzR RAzR REzR REEzR RIzR ROzR RU
zR SAzR SEzR SEEzR SHzR SHAzR SHEzR SHEEzR SHIzR SHOzR SHUzR SIzR SOzR SUzR THAzR THEzR THEEzR THIzR THO
zR THUzR TLAzR TLEzR TLEEzR TLHAzR TLHEzR TLHEEzR TLHIzR TLHOzR TLHUzR TLIzR TLOzR TLUzR TSAzR TSEzR TSEE
zR TSIzR TSOzR TSUzR TTAzR TTEzR TTEEzR TTIzR TTOzR TTSAzR TTSEzR TTSEEzR TTSIzR TTSOzR TTSUzR TTUzR WAzR WE
zR WEEzR WIzR WOzR WUzR YAzR YEzR YEEzR YIzR YOzR YUzR ZzR ZAzR ZEzR ZEEzR ZIzR ZOzR ZUuEuHI SIGNuIvIuOvOuWA
wAvEvIwIvOwOtEuASTERN WuNtFuAvAwIuEuIvIvNAL ACUTEzBOTTOM HALF RINGzDOUBLE ACUTE
zDOUBLE SHORT VERTICAL STROKESzDOWN TACKzGRAVEzMIDDLE DOTzPLUSzRAISED DOTzRIGHT HALF RINGzRING
zSHORT HORIZONTAL STROKEzSMALL RINGzTOP HALF RINGuOvOuULL STOPuWAAtGLOTTAL STOPtHKuYPHENtIuIuNtKuAvAwIvYuEuI
vIuOvOuWvAwAwYvEvIwIvOwOtLuAvAwIvYuEuHvAwAvIwIvOwOuIvIuOvOuWAwAvEvIwIvOwOtMuAvAwIvYuEvDIAL Lz RuHuIvIuOvO
wSE-CREE SKuWAwAvEvIwIvOwOtNu-CREE THEz THIz THIIuAvAwIvSKAPI CWAAzI KWAAzI MWAAzI NWAAzI S-WzI SCWAzI SKW
zI SKWAzI SPWAzI STWAzI SWAAzI TWAAzI WAAzI WOOzI YWAAvTTILIK HAzIK HAAzIK HIzIK HIIzIK HOzIK HOOzIK SHRA
zIK SHRAAzIK SHRIzIK SHRIIzIK SHROzIK SHROOvYuEuGvAwAxIwIvIwIvOwOuHuIvIuNGwAxAwIxIwOxOuOvOvYuUNAVIK HzK HA
zK HAAzK HEzK HIzK HIIzK HOzK HOOyUT HuWAwAvEvIwIvOwOtOuJIBWAY CzY KzY MzY NzY NWIzY NWIIzY NWOzY NWOOzY P
zY SzY SHzY TuNuOuYtPuAvAwIvYuEuIvIuOvOvYuWAwAvEvIwIvOwOwYtQuAvAwIvIuIvIuOvOtRu-CREE REz RWEuAvAwIvYuEuIvIuO
vOuWAwAvEEvIwIvOwOtSuAvAwIvYwISI HAz HEz HIz HOz HOOz JIz JUz JUUz Mz SHAz SHEz SHIz SHOz SHOOz SHWEz THz YI
uEuHvAwAwYvEvIwIvOwOwYvWAxAwEwIxIwOxOxYuIvIuOvOvUTH-SLAVEY KAHzSLAVEY KEHzSLAVEY KIHzSLAVEY KOHvYuPAvEvIvOuW
vAwAvEvIwIvOwOtTuAvAwIvYuEuHv-CREE THzE THAzE THAAzE THEzE THIzE THIIzE THOzE THOOvAwAvEvIwIvOwOvWAxAwEuIvI
uLHAwEwIwOxOwWEuOvOuTAvEvHwAxAwEwIwOxOwWEvIvOuWAwAvEvIwIvOwOuYAvEvIvOtWAvAvYuEvST-CREE CWAzREE CWAAzREE CWE
zREE CWIzREE CWIIzREE CWOzREE CWOOzREE FWAAzREE KWAzREE KWAAzREE KWEzREE KWIzREE KWIIzREE KWOzREE KWOOzREE L
zREE LAzREE LAAzREE LEzREE LOzREE LOOzREE LWAzREE LWAAzREE LWEzREE LWIzREE LWIIzREE LWOzREE LWOOzREE M
zREE MWAzREE MWAAzREE MWEzREE MWIzREE MWIIzREE MWOzREE MWOOzREE NWAzREE NWAAzREE NWEzREE PzREE PWAzREE PWAA
zREE PWEzREE PWIzREE PWIIzREE PWOzREE PWOOzREE RzREE RAzREE REzREE RIzREE ROzREE RWAAzREE SHWAzREE SHWAA
zREE SHWEzREE SHWIzREE SHWIIzREE SHWOzREE SHWOOzREE SWAzREE SWAAzREE SWEzREE SWIzREE SWIIzREE SWOzREE SWOO
zREE THWAAzREE TWAzREE TWAAzREE TWEzREE TWIzREE TWIIzREE TWOzREE TWOOzREE WAzREE WAAzREE WEzREE WIzREE WII
zREE WOzREE WOOzREE YzREE YWAzREE YWAAzREE YWEzREE YWIzREE YWIIzREE YWOzREE YWOOxERN WuIvIuOvO
wDS-CREE FINAL THzCREE THzCREE THAzCREE THEzCREE THIzCREE THOzCREE THWAzCREE THWAAzCREE THWEEzCREE THWI
zCREE THWIIzCREE THWOzCREE THWOOtYu-CREE COOz KOOz LOOz MOOz NOOz OOz POOz PWAAz SOOz TOOz Wz YOOuAvAwIvYuE
uIvIuOvOvYuWAwAvEvIwIvOwOdCELg CHARACTERhTAGgLATION XfRdDLEeYdNED FOODdOEcPITULUMdRICORNcR SLIDING
dD FILE BOXfINDEXk DIVIDERSdE OFeTf INSERTION POINTdIAN LETTER Ap2oBoC-18q39oDp2oEp2oGp2oIpIoKp2oLpDq2oMpBq2
q3q4oNpDpGpNoOoPp2oQoRpRoSpHq2pSpTq2oTpTq2oUpUqUr2r3rUoXdONeUSEL HORSEdP STREAMEReENTRY SAWdRIAGE RETURNeOT
cSTLEcTd FACEi WITH TEARS OF JOYoWRY SMILEcUCASIAN ALBANIAN CITATION MARKtLETTER ALTz AORz BETz CARz CAYN
z CHAz CHATz CHIz CHOYz CYAWz CYAYz DATz DYANz DZAYz DZYAYz EBz EYNz FAMz GHEYSz GIMz HEYTz INYAz IRBz IWN
z JAYNz JHOXz KARz KIWz LANz LYITz MAQz NOWCz ONz PENz PIWRz QARz QAYz RATz SEYKz SHAz SHAKz SHOYz TASz TIWR
z TYAYz VEYZz XEYNz YAYDz YOWDz ZARLz ZHAz ZHILdTION SIGNbCHbEDI SIGNeLLAcLTIC CROSScNT SIGNeRE LINE SYMBOL
gLINE LOW LINElOVERLINEcRESbGJbHAINSeRdKMA AU MARKhDANDAiIGIT EIGHTnFIVEoOURnNINEnONEnSEVENoIXnTHREEoWOnZERO
iOUBLE DANDAhLETTER AAoBAApHAAoCAApHAAoDAApDAAqHAApHAAoEoGAApHAAoHAAoIoJAApHAAoKAApHAAoLAApHAAoMAAoNAApGAA
pNAApYAAoPAApHAAoRAAoSAAoTAApHAApTAAqHAAoUoVAAoWAAoYAApYAAhMAAYYAAhO MARKhQUESTION MARKhSECTION MARK
iIGN ANUSVARAmCANDRABINDUmVISARGAhVIRAMAiOWEL SIGN AtAtItUsEtIsItIsOtIsUtUdM CONSONANT SIGN FINAL Hz Mz NG
uLAuRAuWAuYAfDIGIT EIGHTlFIVEmOURlNINElONElSEVENmIXlTHREEmWOlZEROfLETTER AnImBAnBAnHAmCHAoHAmDAnDAnHAmE
mFINAL CHsGsKsLsNtGsPsRsSSsTsYmGAnHAmHAmImJAnHAmKAnHAmLAmMAnUEmNAnGAoUEnHAoJAoUEnUEmOmPAnHAnPAmRAmSAnSAmTA
nHAmUmVAmYAfPUNCTUATION DANDAsOUBLE DANDArSPIRALrTRIPLE DANDAfVOWEL SIGN AArIrUqEIqIrIqOrEqUrE
dRACTER TABULATIONu SETvWITH JUSTIFICATIONlIEeT WITH DOWNWARDS TRENDlUPWARDS TRENDy AND YEN SIGNcECK MARK
fER BOARDn FILLdERING MEGAPHONEeSE WEDGEdQUERED FLAGdROKEE LETTER AqDArErIrLArOrUrVqEqGArErIrOrUrVqHArErIrNA
rOrUrVqIqKAqLArErIrOrUrVqMArErIrOrUrVqNAsHrErIrOrUrVqOqQUAsEsIsOsUsVqSrArErIrOrUrVqTArErIrLAsEsIsOsUsVrSAsE
sIsOsUsVqUqVqWArErIrOrUrVqYArErIrOrUrVjSMALL LETTER AwDAxExIxLAxOxUxVwEwGAxExIxOxUxVwHAxExIxNAxOxUxVwIwKAwLA
xExIxOxUxVwMAxExIxOxUxVwNAyHxExIxOxUxVwOwQUAyEyIyOyUyVwSxAxExIxOxUxVwTAxExIxLAyEyIyOyUyVxSAyEyIyOyUyVwUwVwWA
xExIxOxUxVwYAxExIxOxUxVeRIESfY BLOSSOMdSTNUTcI RHOdCKENdLDfREN CROSSINGdPMUNKdRONcOCOLATE BARdPSTICKS
dRASMIAN LETTER ALEPHtYINsBETHsCURLED WAWsDALETHsGIMELsHEuTHsKAPHsLAMEDHsMEMsNUNsPEsRESHsSAMEKHtHIN
tMALL ALEPHsTAWsWAWsYODHsZAYINlNUMBER FOURsONEv HUNDREDsTENtHREEtWENTYuOcRISTMAS TREEcURCHbINEMA
cRCLE DIVIDED BY HORIZONTAL BAR AND TOP HALF DIVIDED BY VERTICAL BARhWITH ALL BUT UPPER LEFT QUADRANT BLACK
mHORIZONTAL BARmLEFT HALF BLACKnOWER HALF BLACKmRIGHT HALF BLACKmSMALL CIRCLE TO THE RIGHTnUPERIMPOSED X
mTWO HORIZONTAL STROKES TO THE RIGHTmUPPER HALF BLACKsRIGHT QUADRANT BLACKmVERTICAL FILL
gD ANTICLOCKWISE ARROWv-ROTATED DIVISION SIGNjSTERISK OPERATORiBOLD XjULLETiC WITH OVERLAID BACKSLASHjCjD
jROSS FORMEEu WITH FOUR DOTSz TWO DOTSoPOMMEEnING LANESiDASHjIGIT EIGHToFIVEpOURoNINEoONEoSEVENpIXoTHREEpWO
oZEROkVISION SIGNsLASHjOLLAR SIGN WITH OVERLAID BACKSLASHkT OPERATORiEQUALSiGREATER-THANiHANGUL CHIEUCHw A
qIEUCu ApHIEUHu ApIEUNGu AvUpKHIEUKHw AqIYEOKv ApMIEUMu ApNIEUNu ApPHIEUPHw AqIEUPu ApRIEULu ApSIOSt A
pTHIEUTHw AqIKEUTv AjEAVY WHITE RIGHTWARDS ARROWjORIZONTAL BAR WITH NOTCHjUMAN FIGUREiIDEOGRAPH ACCEPT
tDVANTAGEtLLIANCEtTTENTIONsCENTREtONGRATULATIONuPYuRRECTsEARTHtIGHTtNTERPRISEtXCELLENTsFEMALEtINANCIALuREuVE
tOURsHAVEtIGHsITEMsKINDERGARTENtOTOsLABORtEFTtOWsMALEtEDICINEuTALtOONsNAMEtIGHTuNEsONEsPRINTsQUESTION
sRELIGIONuSOURCEvTtIGHTsSCHOOLtECRETuVENtIXtOCIETYtPECIALtTOCKuUDYtUITABLEuNuPERVISEsTENtHREEtWOsWATERtOOD
jNFORMATION SOURCEjTALIC LATIN CAPITAL LETTER CzTAL LETTER RiKATAKANA ArErHAsEsIsOsUrIrKAsEsIsOsUrMAsEsIsOsU
rNAsEsIsOsUrOrRAsEsIsOsUrSAsEsIsOsUrTAsEsIsOsUrUrWAsEsIsOrYAsOsUjOREAN CHARACTER CHAMKOzJUEUI
iLATIN CAPITAL LETTER AzTER BzTER CzTER DzTER EzTER FzTER GzTER HzTER IzTER JzTER KzTER LzTER MzTER NzTER O
zTER PzTER QzTER RzTER SzTER TzTER UzTER VzTER WzTER XzTER YzTER ZoSMALL LETTER AzR BzR CzR DzR EzR FzR G
zR HzR IzR JzR KzR LzR MzR NzR OzR PzR QzR RzR SzR TzR UzR VzR WzR XzR YzR ZjESS-THANiMINUS
jULTIPLICATION SIGN WITH CIRCUMFLEX ACCENTiNUMBER EIGHTEENuY ON BLACK SQUAREqLEVENpFIFTEENtY
u ON BLACK SQUAREqORTYu EIGHTvFIVEwOURvNINEvON BLACK SQUARExEvSEVENwIXvTHREEwWOrURTEENpNINETEENpSEVENTEEN
vY ON BLACK SQUAREqIXTEENtY ON BLACK SQUAREpTENs ON BLACK SQUAREqHIRTEENuYv EIGHTwFIVExOURwNINE
wON BLACK SQUAREyEwSEVENxIXwTHREExWOqWELVEsNTYv EIGHTwFIVExOURwNINEwON BLACK SQUAREyEwSEVENxIXwTHREExWO
iOPEN CENTRE EIGHT POINTED STARiPARALLELjERPENDICULARjLUSjOSTAL MARKiREVERSE SOLIDUSjING OPERATORiSQUARE
iTIMESjRIANGLEq DOWNiVERTICAL BARiWHITE BULLEToSTARjZiXiZERO WITH SLASHeULATION FUNCTIONfMFLEX ACCENTfS TENT
cTYSCAPEj AT DUSKbJK COMPATIBILITY IDEOGRAPH-2F800zPH-2F801zPH-2F802zPH-2F803zPH-2F804zPH-2F805zPH-2F806
zPH-2F807zPH-2F808zPH-2F809zPH-2F80AzPH-2F80BzPH-2F80CzPH-2F80DzPH-2F80EzPH-2F80FzPH-2F810zPH-2F811zPH-2F812
zPH-2F813zPH-2F814zPH-2F815zPH-2F816zPH-2F817zPH-2F818zPH-2F819zPH-2F81AzPH-2F81BzPH-2F81CzPH-2F81DzPH-2F81E
zPH-2F81FzPH-2F820zPH-2F821zPH-2F822zPH-2F823zPH-2F824zPH-2F825zPH-2F826zPH-2F827zPH-2F828zPH-2F829zPH-2F82A
zPH-2F82BzPH-2F82CzPH-2F82DzPH-2F82EzPH-2F82FzPH-2F830zPH-2F831zPH-2F832zPH-2F833zPH-2F834zPH-2F835zPH-2F836
zPH-2F837zPH-2F838zPH-2F839zPH-2F83AzPH-2F83BzPH-2F83CzPH-2F83DzPH-2F83EzPH-2F83FzPH-2F840zPH-2F841zPH-2F842
zPH-2F843zPH-2F844zPH-2F845zPH-2F846zPH-2F847zPH-2F848zPH-2F849zPH-2F84AzPH-2F84BzPH-2F84CzPH-2F84DzPH-2F84E
zPH-2F84FzPH-2F850zPH-2F851zPH-2F852zPH-2F853zPH-2F854zPH-2F855zPH-2F856zPH-2F857zPH-2F858zPH-2F859zPH-2F85A
zPH-2F85BzPH-2F85CzPH-2F85DzPH-2F85EzPH-2F85FzPH-2F860zPH-2F861zPH-2F862zPH-2F863zPH-2F864zPH-2F865zPH-2F866
zPH-2F867zPH-2F868zPH-2F869zPH-2F86AzPH-2F86BzPH-2F86CzPH-2F86DzPH-2F86EzPH-2F86FzPH-2F870zPH-2F871zPH-2F872
zPH-2F873zPH-2F874zPH-2F875zPH-2F876zPH-2F877zPH-2F878zPH-2F879zPH-2F87AzPH-2F87BzPH-2F87CzPH-2F87DzPH-2F87E
zPH-2F87FzPH-2F880zPH-2F881zPH-2F882zPH-2F883zPH-2F884zPH-2F885zPH-2F886zPH-2F887zPH-2F888zPH-2F889zPH-2F88A
zPH-2F88BzPH-2F88CzPH-2F88DzPH-2F88EzPH-2F88FzPH-2F890zPH-2F891zPH-2F892zPH-2F893zPH-2F894zPH-2F895zPH-2F896
zPH-2F897zPH-2F898zPH-2F899zPH-2F89AzPH-2F89BzPH-2F89CzPH-2F89DzPH-2F89EzPH-2F89FzPH-2F8A0zPH-2F8A1zPH-2F8A2
zPH-2F8A3zPH-2F8A4zPH-2F8A5zPH-2F8A6zPH-2F8A7zPH-2F8A8zPH-2F8A9zPH-2F8AAzPH-2F8ABzPH-2F8ACzPH-2F8ADzPH-2F8AE
zPH-2F8AFzPH-2F8B0zPH-2F8B1zPH-2F8B2zPH-2F8B3zPH-2F8B4zPH-2F8B5zPH-2F8B6zPH-2F8B7zPH-2F8B8zPH-2F8B9zPH-2F8BA
zPH-2F8BBzPH-2F8BCzPH-2F8BDzPH-2F8BEzPH-2F8BFzPH-2F8C0zPH-2F8C1zPH-2F8C2zPH-2F8C3zPH-2F8C4zPH-2F8C5zPH-2F8C6
zPH-2F8C7zPH-2F8C8zPH-2F8C9zPH-2F8CAzPH-2F8CBzPH-2F8CCzPH-2F8CDzPH-2F8CEzPH-2F8CFzPH-2F8D0zPH-2F8D1zPH-2F8D2
zPH-2F8D3zPH-2F8D4zPH-2F8D5zPH-2F8D6zPH-2F8D7zPH-2F8D8zPH-2F8D9zPH-2F8DAzPH-2F8DBzPH-2F8DCzPH-2F8DDzPH-2F8DE
zPH-2F8DFzPH-2F8E0zPH-2F8E1zPH-2F8E2zPH-2F8E3zPH-2F8E4zPH-2F8E5zPH-2F8E6zPH-2F8E7zPH-2F8E8zPH-2F8E9zPH-2F8EA
zPH-2F8EBzPH-2F8ECzPH-2F8EDzPH-2F8EEzPH-2F8EFzPH-2F8F0zPH-2F8F1zPH-2F8F2zPH-2F8F3zPH-2F8F4zPH-2F8F5zPH-2F8F6
zPH-2F8F7zPH-2F8F8zPH-2F8F9zPH-2F8FAzPH-2F8FBzPH-2F8FCzPH-2F8FDzPH-2F8FEzPH-2F8FFzPH-2F900zPH-2F901zPH-2F902
zPH-2F903zPH-2F904zPH-2F905zPH-2F906zPH-2F907zPH-2F908zPH-2F909zPH-2F90AzPH-2F90BzPH-2F90CzPH-2F90DzPH-2F90E
zPH-2F90FzPH-2F910zPH-2F911zPH-2F912zPH-2F913zPH-2F914zPH-2F915zPH-2F916zPH-2F917zPH-2F918zPH-2F919zPH-2F91A
zPH-2F91BzPH-2F91CzPH-2F91DzPH-2F91EzPH-2F91FzPH-2F920zPH-2F921zPH-2F922zPH-2F923zPH-2F924zPH-2F925zPH-2F926
zPH-2F927zPH-2F928zPH-2F929zPH-2F92AzPH-2F92BzPH-2F92CzPH-2F92DzPH-2F92EzPH-2F92FzPH-2F930zPH-2F931zPH-2F932
zPH-2F933zPH-2F934zPH-2F935zPH-2F936zPH-2F937zPH-2F938zPH-2F939zPH-2F93AzPH-2F93BzPH-2F93CzPH-2F93DzPH-2F93E
zPH-2F93FzPH-2F940zPH-2F941zPH-2F942zPH-2F943zPH-2F944zPH-2F945zPH-2F946zPH-2F947zPH-2F948zPH-2F949zPH-2F94A
zPH-2F94BzPH-2F94CzPH-2F94DzPH-2F94EzPH-2F94FzPH-2F950zPH-2F951zPH-2F952zPH-2F953zPH-2F954zPH-2F955zPH-2F956
zPH-2F957zPH-2F958zPH-2F959zPH-2F95AzPH-2F95BzPH-2F95CzPH-2F95DzPH-2F95EzPH-2F95FzPH-2F960zPH-2F961zPH-2F962
zPH-2F963zPH-2F964zPH-2F965zPH-2F966zPH-2F967zPH-2F968zPH-2F969zPH-2F96AzPH-2F96BzPH-2F96CzPH-2F96DzPH-2F96E
zPH-2F96FzPH-2F970zPH-2F971zPH-2F972zPH-2F973zPH-2F974zPH-2F975zPH-2F976zPH-2F977zPH-2F978zPH-2F979zPH-2F97A
zPH-2F97BzPH-2F97CzPH-2F97DzPH-2F97EzPH-2F97FzPH-2F980zPH-2F981zPH-2F982zPH-2F983zPH-2F984zPH-2F985zPH-2F986
zPH-2F987zPH-2F988zPH-2F989zPH-2F98AzPH-2F98BzPH-2F98CzPH-2F98DzPH-2F98EzPH-2F98FzPH-2F990zPH-2F991zPH-2F992
zPH-2F993zPH-2F994zPH-2F995zPH-2F996zPH-2F997zPH-2F998zPH-2F999zPH-2F99AzPH-2F99BzPH-2F99CzPH-2F99DzPH-2F99E
zPH-2F99FzPH-2F9A0zPH-2F9A1zPH-2F9A2zPH-2F9A3zPH-2F9A4zPH-2F9A5zPH-2F9A6zPH-2F9A7zPH-2F9A8zPH-2F9A9zPH-2F9AA
zPH-2F9ABzPH-2F9ACzPH-2F9ADzPH-2F9AEzPH-2F9AFzPH-2F9B0zPH-2F9B1zPH-2F9B2zPH-2F9B3zPH-2F9B4zPH-2F9B5zPH-2F9B6
zPH-2F9B7zPH-2F9B8zPH-2F9B9zPH-2F9BAzPH-2F9BBzPH-2F9BCzPH-2F9BDzPH-2F9BEzPH-2F9BFzPH-2F9C0zPH-2F9C1zPH-2F9C2
zPH-2F9C3zPH-2F9C4zPH-2F9C5zPH-2F9C6zPH-2F9C7zPH-2F9C8zPH-2F9C9zPH-2F9CAzPH-2F9CBzPH-2F9CCzPH-2F9CDzPH-2F9CE
zPH-2F9CFzPH-2F9D0zPH-2F9D1zPH-2F9D2zPH-2F9D3zPH-2F9D4zPH-2F9D5zPH-2F9D6zPH-2F9D7zPH-2F9D8zPH-2F9D9zPH-2F9DA
zPH-2F9DBzPH-2F9DCzPH-2F9DDzPH-2F9DEzPH-2F9DFzPH-2F9E0zPH-2F9E1zPH-2F9E2zPH-2F9E3zPH-2F9E4zPH-2F9E5zPH-2F9E6
zPH-2F9E7zPH-2F9E8zPH-2F9E9zPH-2F9EAzPH-2F9EBzPH-2F9ECzPH-2F9EDzPH-2F9EEzPH-2F9EFzPH-2F9F0zPH-2F9F1zPH-2F9F2
zPH-2F9F3zPH-2F9F4zPH-2F9F5zPH-2F9F6zPH-2F9F7zPH-2F9F8zPH-2F9F9zPH-2F9FAzPH-2F9FBzPH-2F9FCzPH-2F9FDzPH-2F9FE
zPH-2F9FFzPH-2FA00zPH-2FA01zPH-2FA02zPH-2FA03zPH-2FA04zPH-2FA05zPH-2FA06zPH-2FA07zPH-2FA08zPH-2FA09zPH-2FA0A
zPH-2FA0BzPH-2FA0CzPH-2FA0DzPH-2FA0EzPH-2FA0FzPH-2FA10zPH-2FA11zPH-2FA12zPH-2FA13zPH-2FA14zPH-2FA15zPH-2FA16
zPH-2FA17zPH-2FA18zPH-2FA19zPH-2FA1AzPH-2FA1BzPH-2FA1CzPH-2FA1DzPH-F900zPH-F901zPH-F902zPH-F903zPH-F904
zPH-F905zPH-F906zPH-F907zPH-F908zPH-F909zPH-F90AzPH-F90BzPH-F90CzPH-F90DzPH-F90EzPH-F90FzPH-F910zPH-F911
zPH-F912zPH-F913zPH-F914zPH-F915zPH-F916zPH-F917zPH-F918zPH-F919zPH-F91AzPH-F91BzPH-F91CzPH-F91DzPH-F91E
zPH-F91FzPH-F920zPH-F921zPH-F922zPH-F923zPH-F924zPH-F925zPH-F926zPH-F927zPH-F928zPH-F929zPH-F92AzPH-F92B
zPH-F92CzPH-F92DzPH-F92EzPH-F92FzPH-F930zPH-F931zPH-F932zPH-F933zPH-F934zPH-F935zPH-F936zPH-F937zPH-F938
zPH-F939zPH-F93AzPH-F93BzPH-F93CzPH-F93DzPH-F93EzPH-F93FzPH-F940zPH-F941zPH-F942zPH-F943zPH-F944zPH-F945
zPH-F946zPH-F947zPH-F948zPH-F949zPH-F94AzPH-F94BzPH-F94CzPH-F94DzPH-F94EzPH-F94FzPH-F950zPH-F951zPH-F952
zPH-F953zPH-F954zPH-F955zPH-F956zPH-F957zPH-F958zPH-F959zPH-F95AzPH-F95BzPH-F95CzPH-F95DzPH-F95EzPH-F95F
zPH-F960zPH-F961zPH-F962zPH-F963zPH-F964zPH-F965zPH-F966zPH-F967zPH-F968zPH-F969zPH-F96AzPH-F96BzPH-F96C
zPH-F96DzPH-F96EzPH-F96FzPH-F970zPH-F971zPH-F972zPH-F973zPH-F974zPH-F975zPH-F976zPH-F977zPH-F978zPH-F979
zPH-F97AzPH-F97BzPH-F97CzPH-F97DzPH-F97EzPH-F97FzPH-F980zPH-F981zPH-F982zPH-F983zPH-F984zPH-F985zPH-F986
zPH-F987zPH-F988zPH-F989zPH-F98AzPH-F98BzPH-F98CzPH-F98DzPH-F98EzPH-F98FzPH-F990zPH-F991zPH-F992zPH-F993
zPH-F994zPH-F995zPH-F996zPH-F997zPH-F998zPH-F999zPH-F99AzPH-F99BzPH-F99CzPH-F99DzPH-F99EzPH-F99FzPH-F9A0
zPH-F9A1zPH-F9A2zPH-F9A3zPH-F9A4zPH-F9A5zPH-F9A6zPH-F9A7zPH-F9A8zPH-F9A9zPH-F9AAzPH-F9ABzPH-F9ACzPH-F9AD
zPH-F9AEzPH-F9AFzPH-F9B0zPH-F9B1zPH-F9B2zPH-F9B3zPH-F9B4zPH-F9B5zPH-F9B6zPH-F9B7zPH-F9B8zPH-F9B9zPH-F9BA
zPH-F9BBzPH-F9BCzPH-F9BDzPH-F9BEzPH-F9BFzPH-F9C0zPH-F9C1zPH-F9C2zPH-F9C3zPH-F9C4zPH-F9C5zPH-F9C6zPH-F9C7
zPH-F9C8zPH-F9C9zPH-F9CAzPH-F9CBzPH-F9CCzPH-F9CDzPH-F9CEzPH-F9CFzPH-F9D0zPH-F9D1zPH-F9D2zPH-F9D3zPH-F9D4
zPH-F9D5zPH-F9D6zPH-F9D7zPH-F9D8zPH-F9D9zPH-F9DAzPH-F9DBzPH-F9DCzPH-F9DDzPH-F9DEzPH-F9DFzPH-F9E0zPH-F9E1
zPH-F9E2zPH-F9E3zPH-F9E4zPH-F9E5zPH-F9E6zPH-F9E7zPH-F9E8zPH-F9E9zPH-F9EAzPH-F9EBzPH-F9ECzPH-F9EDzPH-F9EE
zPH-F9EFzPH-F9F0zPH-F9F1zPH-F9F2zPH-F9F3zPH-F9F4zPH-F9F5zPH-F9F6zPH-F9F7zPH-F9F8zPH-F9F9zPH-F9FAzPH-F9FB
zPH-F9FCzPH-F9FDzPH-F9FEzPH-F9FFzPH-FA00zPH-FA01zPH-FA02zPH-FA03zPH-FA04zPH-FA05zPH-FA06zPH-FA07zPH-FA08
zPH-FA09zPH-FA0AzPH-FA0BzPH-FA0CzPH-FA0DzPH-FA0EzPH-FA0FzPH-FA10zPH-FA11zPH-FA12zPH-FA13zPH-FA14zPH-FA15
zPH-FA16zPH-FA17zPH-FA18zPH-FA19zPH-FA1AzPH-FA1BzPH-FA1CzPH-FA1DzPH-FA1EzPH-FA1FzPH-FA20zPH-FA21zPH-FA22
zPH-FA23zPH-FA24zPH-FA25zPH-FA26zPH-FA27zPH-FA28zPH-FA29zPH-FA2AzPH-FA2BzPH-FA2CzPH-FA2DzPH-FA2EzPH-FA2F
zPH-FA30zPH-FA31zPH-FA32zPH-FA33zPH-FA34zPH-FA35zPH-FA36zPH-FA37zPH-FA38zPH-FA39zPH-FA3AzPH-FA3BzPH-FA3C
zPH-FA3DzPH-FA3EzPH-FA3FzPH-FA40zPH-FA41zPH-FA42zPH-FA43zPH-FA44zPH-FA45zPH-FA46zPH-FA47zPH-FA48zPH-FA49
zPH-FA4AzPH-FA4BzPH-FA4CzPH-FA4DzPH-FA4EzPH-FA4FzPH-FA50zPH-FA51zPH-FA52zPH-FA53zPH-FA54zPH-FA55zPH-FA56
zPH-FA57zPH-FA58zPH-FA59zPH-FA5AzPH-FA5BzPH-FA5CzPH-FA5DzPH-FA5EzPH-FA5FzPH-FA60zPH-FA61zPH-FA62zPH-FA63
zPH-FA64zPH-FA65zPH-FA66zPH-FA67zPH-FA68zPH-FA69zPH-FA6AzPH-FA6BzPH-FA6CzPH-FA6DzPH-FA70zPH-FA71zPH-FA72
zPH-FA73zPH-FA74zPH-FA75zPH-FA76zPH-FA77zPH-FA78zPH-FA79zPH-FA7AzPH-FA7BzPH-FA7CzPH-FA7DzPH-FA7EzPH-FA7F
zPH-FA80zPH-FA81zPH-FA82zPH-FA83zPH-FA84zPH-FA85zPH-FA86zPH-FA87zPH-FA88zPH-FA89zPH-FA8AzPH-FA8BzPH-FA8C
zPH-FA8DzPH-FA8EzPH-FA8FzPH-FA90zPH-FA91zPH-FA92zPH-FA93zPH-FA94zPH-FA95zPH-FA96zPH-FA97zPH-FA98zPH-FA99
zPH-FA9AzPH-FA9BzPH-FA9CzPH-FA9DzPH-FA9EzPH-FA9FzPH-FAA0zPH-FAA1zPH-FAA2zPH-FAA3zPH-FAA4zPH-FAA5zPH-FAA6
zPH-FAA7zPH-FAA8zPH-FAA9zPH-FAAAzPH-FAABzPH-FAACzPH-FAADzPH-FAAEzPH-FAAFzPH-FAB0zPH-FAB1zPH-FAB2zPH-FAB3
zPH-FAB4zPH-FAB5zPH-FAB6zPH-FAB7zPH-FAB8zPH-FAB9zPH-FABAzPH-FABBzPH-FABCzPH-FABDzPH-FABEzPH-FABFzPH-FAC0
zPH-FAC1zPH-FAC2zPH-FAC3zPH-FAC4zPH-FAC5zPH-FAC6zPH-FAC7zPH-FAC8zPH-FAC9zPH-FACAzPH-FACBzPH-FACCzPH-FACD
zPH-FACEzPH-FACFzPH-FAD0zPH-FAD1zPH-FAD2zPH-FAD3zPH-FAD4zPH-FAD5zPH-FAD6zPH-FAD7zPH-FAD8zPH-FAD9
eRADICAL BAMBOOnLUEnOLT OF CLOTHoNEoXnRUSH ONEsTWOmC-SIMPLIFIED BIRDzCARTzDRAGONzEATzEVENzFISHzFLYzFROGzGATE
zGOLDzHORSEzLEAFzLONGzSALTzSEEzSHELLzSILKzSPEECHzTANNED LEATHERzTOOTHzTURTLEzWINDnHOKEnITYoVILIANnLIFFoOTHES
nOWmDEATHnIVINATIONnOGmEAT ONEqTHREErWOnWEnYEmFIREnOOTmGHOSTnRASS ONEsTHREEtWOmHANDnEADpRT ONEsTWOnORN
mJ-SIMPLIFIED DRAGONzEVENzTOOTHzTURTLEnADEmKNIFE ONEsTWOmLAME FOURrONErTHREEsWOnONG ONErTWOmMEAToSHnOONoRTAR
oTHERoUND ONEsTWOmNET FOURqONEqTHREErWOmOLDmPAW ONEqTWOnERSONmRAINoMoPnEPEATmSEALoCOND ONEtTHREEuWOnHEEPnILK
oMPLIFIED HALF TREE TRUNKyORNxWALKyHEATxYELLOWnMALL ONEsTWOnNAKEoOUT ONEsTWOnPIRIT ONEtTWOnUNmTABLEnHREAD
nIGERnURTLEmWALK ONErTWOoTER ONEsTWOnEST ONErTWOeSTROKE BXGlDlHmGmPnWGmXWGmZnGnTnWoGnZoPoZpGlNlPmDmGmZlQlSmG
mPmTmWnGnZmZnWGnZlTmNlWGlXGbLAMSHELL MOBILE PHONEdPPER BOARDfING HANDS SIGNdSSICAL BUILDING
cEAR SCREEN SYMBOLcINKING BEER MUGSjGLASSESdPBOARDcOCK FACE EIGHT OCLOCKq-THIRTYmLEVEN OCLOCKr-THIRTY
lFIVE OCLOCKp-THIRTYmOUR OCLOCKp-THIRTYlNINE OCLOCKp-THIRTYlONE OCLOCKo-THIRTYlSEVEN OCLOCKq-THIRTY
mIX OCLOCKo-THIRTYlTEN OCLOCKo-THIRTYmHREE OCLOCKq-THIRTYmWELVE OCLOCKr-THIRTYnO OCLOCKo-THIRTY
fWISE CLOSED CIRCLE ARROWlONTOUR INTEGRALkDOWNWARDS AND UPWARDS OPEN CIRCLE ARROWSkGAPPED CIRCLE ARROW
kINTEGRALkOPEN CIRCLE ARROWkRIGHT AND LEFT SEMICIRCLE ARROWSpWARDS AND LEFTWARDS OPEN CIRCLE ARROWS
zLEFTWARDS OPEN CIRCLE ARROWS WITH CIRCLED ONE OVERLAYkTOP SEMICIRCLE ARROWlRIANGLE-HEADED OPEN CIRCLE ARROW
dSE UPfD BOOKhINTERSECTION WITH SERIFShLOCK WITH KEYhMAILBOX WITH LOWERED FLAGuRAISED FLAGhSUBSET
n OR EQUAL TOjPERSETp OR EQUAL TOhUMBRELLAiNION WITH SERIFSy AND SMASH PRODUCTdUDf WITH LIGHTNINGlRAINlSNOW
lTORNADOdWN FACEbOATcCKROACHeTAIL GLASSdONUTcFFINcINcLLISION SYMBOLdONf EQUALSgSIGNcMBINING ACUTE ACCENT
w BELOWqTONE MARKp-GRAVE-ACUTEqMACRONlLMOST EQUAL TO ABOVEz BELOWlNNUITY SYMBOLmTICLOCKWISE ARROW ABOVE
yRING OVERLAYlSTERISK ABOVEtBELOWkBINDU BELOWlREVEp BELOWp-MACRONmIDGE ABOVErBELOWkCANDRABINDUmRONp BELOW
lEDILLAlIRCUMFLEX ACCENTzNT BELOWlLOCKWISE ARROW ABOVEuRING OVERLAYlOMMA ABOVEv RIGHTqBELOWmNJOINING MACRON
zON BELOWlYRILLIC DASIA PNEUMATAtHUNDRED MILLIONS SIGNzD THOUSANDS SIGNtKAVYKAtLETTER Az BEz BIG YUSz CHE
z DEz DJERVz EFz ELz EMz ENz ERz ESz ES-TEz FITAz GHEz HAz HARD SIGNz Iz IEz IOTIFIED Az IOTIFIED BIG YUS
z IOTIFIED Ez KAz LITTLE YUSz MONOGRAPH UKz Oz OMEGAz PEz SHAz SHCHAz SOFT SIGNz TEz TSEz Uz UKRAINIAN IE
z VEz YATz YERUz YIz YUz ZEz ZHEtMILLIONS SIGNtPALATALIZATIONvYEROKuOKRYTIEuSILI PNEUMATAtTEN MILLIONS SIGN
uHOUSAND MILLIONS SIGNuITLOy LEFT HALFzRIGHT HALFtVZMETkDELETION MARKmVANAGARI DIGIT EIGHTzT FIVEzT FOUR
zT NINEzT ONEzT SEVENzT SIXzT THREEzT TWOzT ZEROvLETTER AzER KAzER NAzER PAzER RAzER UzER VIvSIGN AVAGRAHA
lIAERESISt BELOWt-RINGlOT ABOVEt LEFTuRIGHToBELOWt LEFTnTED ACUTE ACCENTrGRAVE ACCENTmUBLE ACUTE ACCENT
rBREVEw BELOWrCIRCUMFLEX ABOVErGRAVE ACCENTrINVERTED BREVEz BREVE BELOWrLOW LINErMACRONx BELOW
rOPEN MARK BELOWsVERLINErPARENTHESES ABOVEsLUS SIGN ABOVEzN BELOWrRIGHTWARDS ARROW BELOWtNG BELOWrTILDE
w LEFT HALFxRIGHT HALFrVERTICAL LINE ABOVEz LINE BELOWz STROKE OVERLAYqD CIRCUMFLEX ACCENTmWN TACK BELOW
oWARDS ARROWkENCLOSING CIRCLEzE BACKSLASHuDIAMONDuKEYCAPuSCREENvQUAREuUPWARD POINTING TRIANGLE
lQUALS SIGN BELOWkFERMATAlOUR DOTS ABOVEkGLAGOLITIC LETTER AZUzER BIG YUSzER BUKYzER CHRIVIzER DJERVI
zER DOBROzER FITAzER FRITUzER GLAGOLIzER HERUzER IzER INITIAL IZHEzER IOTATED BIG YUSzER IOTATED SMALL YUS
zER IZHEzER KAKOzER LJUDIJEzER MYSLITEzER NASHIzER ONUzER POKOJIzER RITSIzER SHAzER SHTAzER SLOVO
zER SMALL YUSzER TSIzER TVRIDOzER UKUzER VEDEzER YATIzER YERIzER YERUzER YESTUzER YOzER YUzER ZEMLJA
zER ZHIVETElRANTHA DIGIT FIVEzOURyONEySIXyTHREEzWOyZEROsLETTER AzKAzNAzPAzVInPHEME JOINERnVE ACCENTw BELOW
qTONE MARKp-ACUTE-GRAVEqMACRONmEEK DIALYTIKA TONOSqKORONISqMUSICAL PENTASEMEyTETRASEMEzRISEMEqPERISPOMENI
qYPOGEGRAMMENIkHOMOTHETIC ABOVEmOK ABOVEmRNkINFINITYmVERTED BREVEy BELOWvIDGE BELOWtDOUBLE ARCH ABOVE
z ARCH BELOWlS BELOWkKATAKANA-HIRAGANA SEMI-VOICED SOUND MARKzNA VOICED SOUND MARKmVYKA ABOVE LEFTxRIGHT
kLATIN LETTER SMALL CAPITAL GzALL CAPITAL LzALL CAPITAL MzALL CAPITAL NzALL CAPITAL RqSMALL LETTER A
zTER A WITH DIAERESISzTER AEzTER ALPHAzTER AOzTER AVzTER BzTER BETAzTER CzTER C CEDILLAzTER DzTER EzTER ESH
zTER ETHzTER FzTER FLATTENED OPEN A ABOVEzTER GzTER HzTER IzTER INSULAR DzTER INSULAR GzTER INSULAR R
zTER INSULAR TzTER KzTER LzTER L WITH DOUBLE MIDDLE TILDEzTER LONG SzTER MzTER NzTER OzTER O WITH DIAERESIS
zTER O WITH LIGHT CENTRALIZATION STROKEzTER PzTER RzTER R BELOWzTER R ROTUNDAzTER SzTER SCHWAzTER T
zTER TURNED W BELOWzTER UzTER U WITH DIAERESISzTER U WITH LIGHT CENTRALIZATION STROKEzTER VzTER W
zTER W BELOWzTER XzTER ZlEFT ANGLE ABOVEvBELOWqRROW ABOVEvBELOWuHEAD ABOVEzBELOWpHALF RING ABOVEzBELOW
rRPOON ABOVEpPARENTHESIS ABOVE LEFTzS BELOW LEFTpRIGHT ARROW ABOVEzW BELOWpTACK BELOWoWARDS ARROW OVERLAY
uHARPOON WITH BARB DOWNWARDSlIGATURE LEFT HALFzALF BELOWtRIGHT HALFzHALF BELOW
nHT CENTRALIZATION STROKE BELOWlONG DOUBLE SOLIDUS OVERLAYpSOLIDUS OVERLAYqTROKE OVERLAY
pVERTICAL LINE OVERLAYmW LINEkMACRONq BELOWrLEFT HALFzF BELOWrRIGHT HALFzLF BELOWq-ACUTErBREVErGRAVE
lINUS SIGN BELOWkNOT TILDE ABOVElUMBER SIGN ABOVEkOGONEKq ABOVElLD PERMIC LETTER ANzER DOIzER NENOEzER SII
zER ZATAlPEN MARK BELOWlVERLINEkPALATALIZED HOOK BELOWmRENTHESES ABOVEwBELOWwOVERLAYlLUS SIGN ABOVEuBELOW
kRETROFLEX HOOK BELOWmVERSE SOLIDUS OVERLAYrD COMMA ABOVElIGHT ARROW ABOVEwBELOWvHEAD ABOVE
z AND DOWN ARROWHEAD BELOWz AND UP ARROWHEAD BELOWz BELOWqHALF RING ABOVEz BELOWsRPOON ABOVE
qPARENTHESIS ABOVE RIGHTzIS BELOW RIGHTqTACK BELOWpWARDS HARPOON WITH BARB DOWNWARDSmNG ABOVEpBELOWpOVERLAY
kSEAGULL BELOWlHORT SOLIDUS OVERLAYrTROKE OVERLAYqVERTICAL LINE OVERLAYlNAKE BELOWlQUARE BELOWsRACKETS ABOVE
lTRONG CENTRALIZATION STROKE BELOWlUSPENSION MARKkTHREE DOTS ABOVElILDEp BELOWqLEFT HALF BELOWqOVERLAY
qRIGHT HALF BELOWlRIPLE ACUTE ACCENTrDOTrUNDERDOTlURNED COMMA ABOVEkUP TACK ABOVEsBELOWmWARDS ARROW BELOW
lR ABOVElS ABOVEkVERTICAL LINE ABOVEyBELOWtTILDEkWIDE BRIDGE ABOVEpINVERTED BRIDGE BELOWmGGLY LINE BELOW
kX ABOVEmBELOWl-X BELOWkZIGZAG ABOVErBELOWdETdMAeERCIAL ATlMINUS SIGNdPASSeLEMENTeOSITION SYMBOLeRESSION
cNFETTI BALLeOUNDED FACEeUSED FACEdGRUENT WITH DOT ABOVEdICAL TAPERdJUNCTIONdSTRUCTION SIGNnWORKER
dTAINS AS MEMBERmNORMAL SUBGROUPzUP OR EQUAL TOjWITH LONG HORIZONTAL STROKEoOVERBAR
oVERTICAL BAR AT END OF HORIZONTAL STROKEeINUOUS UNDERLINE SYMBOLeOUR INTEGRALeROL KNOBSiSEQUENCE INTRODUCER
dVENIENCE STOREcOKED RICEeIEfNGcPTIC CAPITAL LETTER AKHMIMIC KHEIxLFAwBOHAIRIC KHEIwCROSSED SHEI
yYPTOGRAMMIC EIEzPTOGRAMMIC GANGIAzPTOGRAMMIC NIzPTOGRAMMIC SHEIwDALDAxEIxIALECT-P ALEFzLECT-P HORI
zLECT-P KAPAzLECT-P NIwEIEwFEIxIwGAMMAyNGIAwHATExORIwIAUDAwKAPAxHEIyIxSIwL-SHAPED HAxAULAwMIwNIwO
xLD COPTIC AINz COPTIC DJAz COPTIC ESHz COPTIC GANGIAz COPTIC HAz COPTIC HATz COPTIC HEIz COPTIC HORI
z COPTIC OOUz COPTIC SHEIz COPTIC SHIMAz NUBIAN NGIz NUBIAN NYIz NUBIAN SHIMAz NUBIAN WAUxOUwPIxSIwROwSAMPI
xHEIyIMAxIMAxOUwTAUxHETHEwUAwVIDAwZATAiOMBINING NI ABOVErSPIRITUS ASPERz LENIShEPACT DIGIT EIGHTtFIVEuOUR
tNINEtONEtSEVENuIXtTHREEuWOnNUMBER EIGHT HUNDREDzYuFIFTYwVE HUNDREDvORTYwUR HUNDREDuNINE HUNDREDyTY
uONE HUNDREDuSEVEN HUNDREDzTYvIX HUNDREDxTYuTENvHIRTYwREE HUNDREDvWENTYwO HUNDREDnTHOUSANDS MARK
hFRACTION ONE HALFiULL STOPhMORPHOLOGICAL DIVIDERhOLD NUBIAN DIRECT QUESTION MARKsFULL STOP
sINDIRECT QUESTION MARKsVERSE DIVIDERhSMALL LETTER AKHMIMIC KHEIvLFAuBOHAIRIC KHEIuCROSSED SHEI
wYPTOGRAMMIC EIEzOGRAMMIC GANGIAzOGRAMMIC NIzOGRAMMIC SHEIuDALDAvEIvIALECT-P ALEFzCT-P HORIzCT-P KAPA
zCT-P NIuEIEuFEIvIuGAMMAwNGIAuHATEvORIuIAUDAuKAPAvHEIwIvSIuL-SHAPED HAvAULAuMIuNIuOvLD COPTIC AINzOPTIC DJA
zOPTIC ESHzOPTIC GANGIAzOPTIC HAzOPTIC HATzOPTIC HEIzOPTIC HORIzOPTIC OOUzOPTIC SHEIzOPTIC SHIMAyNUBIAN NGI
zUBIAN NYIzUBIAN SHIMAzUBIAN WAUvOUuPIvSIuROuSAMPIvHEIwIMAvIMAvOUuTAUvHETHEuUAuVIDAuZATAiYMBOL KAIpHI RO
oMI ROoPI ROoSHIMA SIMApTAUROSoTAU ROdYLEFT SYMBOLeRIGHT SIGNcRALdNISH VERSE DIVIDERdRESPONDS TO
cUCH AND LAMPdNTERBOREhSINKfING ROD TENS DIGIT EIGHTyFIVEzOURyNINEyONEySEVENzIXyTHREEzWOnUNIT DIGIT EIGHT
yFIVEzOURyNINEyONEySEVENzIXyTHREEzWOdPLE WITH HEARTcWd FACEbRcABcEDIT CARDdSCENT MOONcICKETh BAT AND BALL
cOCODILEdISSANTdSS MARKgOF JERUSALEMjLORRAINEgPATTY WITH LEFT CROSSBARrRIGHT CROSSBARhOMMEE
m WITH HALF-CIRCLE BELOWfED FLAGSiNEGATIVE SQUARED LATIN CAPITAL LETTER PiSWORDSfING LANESdWNcUTCH
dZEIRO SIGNcYING CAT FACEhFACEdSTAL BALLbSIbUBE ROOTcCUMBERcNEIFORM NUMERIC SIGN EIGHT ASHzGHT DISH
zGHT GESH2zGHT SHAR2zGHT UzGHT U VARIANT FORMzGHT VARIANT FORM USSUzGHT VARIANT FORM USSU3yLAMITE FIFTY
zAMITE FORTYzAMITE ONE THIRDzAMITE TWO THIRDSxFIVE ASHzVE ASH TENUzVE BAN2zVE BAN2 VARIANT FORMzVE BURU
zVE DISHzVE GESH2zVE GESHUzVE SHAR2zVE SHARUzVE SIXTHS DISHzVE UzVE U VARIANT FORMyOUR ASHzUR ASH TENU
zUR BAN2zUR BAN2 VARIANT FORMzUR BURUzUR DISHzUR GESH2zUR GESHUzUR SHAR2zUR SHARUzUR UzUR U VARIANT FORM
zUR VARIANT FORM LIMMUzUR VARIANT FORM LIMMU AzUR VARIANT FORM LIMMU BzUR VARIANT FORM LIMMU4xNIGIDAESH
zGIDAMINzNE ASHzNE DISHzNE GESH2zNE SHAR2zNE UzNE U VARIANT FORMzNE VARIANT FORM ILIMMU
zNE VARIANT FORM ILIMMU AzNE VARIANT FORM ILIMMU3zNE VARIANT FORM ILIMMU4xOLD ASSYRIAN ONE QUARTER
zD ASSYRIAN ONE SIXTHyNE BAN2zE BURUzE EIGHTH ASHzE ESHE3zE GESH2zE GESHUzE HALF GURzE QUARTER ASH
zE QUARTER GURzE SHARUzE THIRD DISHzE THIRD VARIANT FORM AxSEVEN ASHzVEN DISHzVEN GESH2zVEN SHAR2zVEN U
zVEN U VARIANT FORMzVEN VARIANT FORM IMIN AzVEN VARIANT FORM IMIN BzVEN VARIANT FORM IMIN3
yHAR2 TIMES GAL PLUS DISHzAR2 TIMES GAL PLUS MINyIX ASHzX ASH TENUzX DISHzX GESH2zX SHAR2zX U
zX U VARIANT FORMzX VARIANT FORM ASH9xTHREE ASHzREE ASH TENUzREE BAN2zREE BURUzREE BURU VARIANT FORM
zREE DISHzREE GESH2zREE GESHUzREE SHAR2zREE SHAR2 VARIANT FORMzREE SHARUzREE SHARU VARIANT FORM
zREE VARIANT FORM ESH16zREE VARIANT FORM ESH21yWO ASHzO ASH TENUzO BAN2zO BURUzO ESHE3zO GESH2zO GESHU
zO SHAR2zO SHARUzO THIRDS DISHzO THIRDS VARIANT FORM AkPUNCTUATION SIGN DIAGONAL COLONzN DIAGONAL QUADCOLON
zN DIAGONAL TRICOLONzN OLD ASSYRIAN WORD DIVIDERzN VERTICAL COLONkSIGN Aq TIMES AxBADxGAN2 TENUxHAxIGI
xLAGAR GUNUxMUSHxSAGq2qBr GUNUsTIMES ASH2yDUN3 GUNUyGALzAN2 TENUyHAyIGI GUNUzMINyLAGAByNUNzUN TENUySHESHzHU2
yU PLUS U PLUS Ur2s TIMES AzBALAGzGAN2 TENUzME PLUS ENzSHA3zTAK4qDr TIMES ESH2qKr TIMES ERIN2
ySHITA PLUS GISHqLr TIMES ALyDIM2yGISHyHAyKAD3zIySHEyUSHrANrEPHqMARt TIMES KUGz SHEqNr OVER AN
sPLUS NAGA OPPOSING AN PLUS NAGAzGA SQUAREDsTHREE TIMESrSHEqPINqRADt TIMES KURrKABqSAL2rHs KABA TENU
tOVER ASH OVER ASHzSH OVER ASH CROSSING ASH OVER ASH OVER ASHzSH TUG2 OVER TUG2 TUG2 OVER TUG2 PAPtZIDA TENU
s2sGABpBArDs TIMES DISH TENUrG3rHAR2v TIMES AB2zES NIzES ZArLs OVER BALsAGrRsA2qIr TIMES AyGARyIGI GUNUqU
r CROSSING BUsOVER BU ABz TIMES NA2z UNrLUGu OVER BULUGrRs2pDAr TIMES TAK4rGs KISIM5 TIMES A PLUS MASH
z TIMES AMARz TIMES BALAGz TIMES BIz TIMES GAz TIMES GA PLUS MASHz TIMES GIz TIMES GIR2z TIMES GUDz TIMES HA
z TIMES IRz TIMES IR PLUS LUz TIMES KAKz TIMES LAz TIMES LUz TIMES LU PLUS MASH2z TIMES LUMz TIMES NE
z TIMES PAP PLUS PAPz TIMES SIz TIMES TAK4z TIMES U2 PLUS GIR2z TIMES U2 PLUS MASHz TIMES USHtTIMES KURs3rM
rRsA3t4qIrBrMs TIMES IGIzSHEzU U Us2t TIMES UDrNs KASKAL U GUNU DISHrSHt PLUS SHUqUr GUNUsOVER DUsSHESHIGrB
s TIMES ESH2zSHEs2rGs TIMES ANSHEzASHzASH AT LEFTzDINzDUNzERIN2zGAzGIzGIR2 GUNUzGISHzHAzHIzIGI GUNUzKASKAL
zKURzKUSHU2zKUSHU2 PLUS KASKALzLAK-020zLAMzLAM TIMES KURzLUH PLUS GISHzMASHzMESzMIzNIzPIzSHEzSI GUNUsUDrHrN
s3t GUNUy GUNUs4rR2pEq OVER E NUN OVER NUNrTIMES PAPq2r TIMES A PLUS HA PLUS DAyGARyKURyMIyPAPySALzHEyUqDIN
qGIRqLqNr CROSSING ENsOPPOSING ENsSQUAREDsTIMES GAN2zAN2 TENUyMEqRENrIN2u XqSH2t CROSSING ESH2qZEN
t SHESHIG TIMES ASHzIG TIMES HIzIG TIMES IGI GUNUzIG TIMES LAzIG TIMES LALzIG TIMES MEzIG TIMES MES
zIG TIMES SUuTIMES Az A PLUS LALz A PLUS LAL TIMES LALz ANz BADz DUN3 GUNUz DUN3 GUNU GUNUz GUDz HAz HA GUNU
z IGI GUNUz KASKALz KASKAL SQUAREDz KU3z LAz LAL TIMES LALz LIz LUz SHEz SUz U2z UDpGAr GUNUr2s OVER GA2
tTIMES A PLUS DA PLUS HAzA PLUS HAzA PLUS IGIzAB2 TENU PLUS TABzANzAN PLUS KAK PLUS AzASHzASH2zASH2 PLUS GAL
zBADzBAHAR2zBAR PLUS RAzBURzBUR PLUS RAzDAzDIzDIM GUNUzDIM TIMES SHEzDUBzDUG TIMES IGI GUNUzDUG TIMES KASKAL
zELzEL PLUS LAzENzEN TIMES GAN2 TENUzERENzGAzGAN2 TENUzGARzGAR PLUS DIzGAR PLUS NEzGIzGI4zGI4 PLUS A
zGIR2 PLUS SUzHA PLUS AzHA PLUS LU PLUS ESH2zHALzHAL PLUS LAzHI PLUS LIzHUB2zIGI GUNUzISH PLUS HU PLUS ASH
zKAKzKASKALzKIDzKID PLUS LALzKU3 PLUS ANzKUSHU2 PLUS KASKALzLAzLAMzLAM TIMES KURzLUHzME PLUS ENzMIzMUSHzNE
zNE PLUS E2zNE PLUS GIzNUNzNUN OVER NUNzPAzSALzSARzSHEzSHE PLUS TURzSHIDzSHIMzSUMzTAK4zUzUDzUD PLUS DUzZIZ2
rBAt CROSSING GABAuROTATED NINETY DEGREESrDs OVER GAD GAR OVER GARrLs GAD OVER GAD GAR OVER GARsAMrMrNs2
t CROSSING GAN2uOVER GAN2uTENUrRs3rSHANqE22rSHTINw TIMES KURzMES UqIr CROSSING GIsTIMES EyUr4s CROSSING GI4
tOVER GI4rDIMrGrR2t GUNUs3t TIMES A PLUS IGIz GAN2 TENUz IGIz LU PLUS IGIz PArSALsHt CROSSING GISHuTENU
vIMES BADz GISH CROSSING GISHz TAK4qUr CROSSING GUr2s GUNUtTIMES IGI GUNUzKAKzKAK TIMES IGI GUNUzNUN
zSAL PLUS TUG2rDs OVER GUD LUGALtPLUS GISH TIMES TAK4tTIMES A PLUS KURzKURrLrMs TIMES SHErRs7sUNtSHpHAr GUNU
sTENUw GUNUrLqIr TIMES ASHzSH OVER HI TIMES ASHzSH2yBADyDISHyGADyKINyNUNySHEyUqUrB2t TIMES ANz HALz KASKAL
z LISHz UDrL2rSHpIq AqBqDIMt OVER IDIM BURzIDIM SQUAREDqGrIs DIBtGUNUtOVER IGI SHIR OVER SHIR UD OVER UDtRI
qLr TIMES GAN2 TENUr2qMr CROSSING IMsOPPOSING IMsSQUAREDsTIMES TAK4rINqNqRqSHpKAr TIMES AzDzD PLUS KU3zNSHE
zSH2zSH3yBADzALAGzARzIzUyERIN2zSH2yGAzALzAN2 TENUzARzAR PLUS SHA3 PLUS AzIzIR2zISHzISH CROSSING GISH
zISH PLUS SARzUzUDzUR7yHI TIMES ASH2yIGIzMyKAzAKzIzIDyLIzUzUMyMEzE PLUS DUzE PLUS GIzE PLUS TEzI
zI PLUS NUNUZyNEzUNyPAzIyRUySAzARzHAzHEzHIDzHUzHULzIGzUHURyTARzUyUz U Uz2zDzMUM TIMES PAzRzR2zSHyZIr2
s CROSSING KA2rBrD2s3s4s5t OVER KAD5rKs TIMES IGI GUNUrLs CROSSING KALtTIMES BADrM2s4rP ELAMITErSKAL
v LAGAB TIMES U OVER LAGAB TIMES UwOVER KASKAL LAGAB TIMES U OVER LAGAB TIMES UqESH2qIr TIMES BADyUzDrDrN
rSALsHsIM5v OVER KISIM5qUr OVER HI TIMES ASH2 KU OVER HI TIMES ASH2r3r4s VARIANT FORMr7rLs GUNUrNrR
s OPPOSING KURrSHU2qWU318pLArGABu SQUAREDvTIMES AzS A PLUS DA PLUS HAzS A PLUS GARzS A PLUS LALzS ALzS AN
zS ASH ZIDA TENUzS BADzS BIzS DARzS ENzS GAzS GARzS GIzS GUDzS GUD PLUS GUDzS HAzS HALzS HI TIMES NUN
zS IGI GUNUzS IMzS IM PLUS HAzS IM PLUS LUzS KIzS KINzS KU3zS KULzS KUL PLUS HI PLUS AzS LAGABzS LISHzS LU
zS LULzS MEzS ME PLUS ENzS MUSHzS NEzS SHE PLUS SUMzS SHITA PLUS GISH PLUS ERIN2zS SHITA PLUS GISH TENU
zS SHU2zS SHU2 PLUS SHU2zS SUMzS TAGzS TAK4zS TE PLUS A PLUS SU PLUS NAzS UzS U PLUS AzS U PLUS U PLUS U
zS U2 PLUS ASHzS UDzS USHzS ZU OVER ZUtRu GUNUz OVER LAGAR GUNU SHEvTIMES SHEzS SHE PLUS SUMrHSHUrK-003u21v5
u30u50v1u62u79 OVER LAK-079 GUNUu80v1 OVER LAK-081u92t130u42t210v9u20v5v8u38u65v6t343v7v8u83v4u90t441v9
w TIMES GUzMES IGIzMES PAP PLUS LU3zMES PAP PLUS PAP PLUS LU3zMES U2 PLUS BAu50v7u70u83u90v2v3v5t550t608u17
w TIMES ASHzMES BADzMES DUN3 GUNU GUNUzMES KU3zMES LAzMES TARzMES TEzMES U2zMES UDzMES URUDAu36u48
w TIMES DUBzMES GAzMES IGIzMES IGI GUNUzMES NIzMES PAP PLUS PAP PLUS LU3zMES SHESH PLUS KIzMES UDzMES URUDA
t724u49rLs TIMES LALrMs TIMES KURzKUR PLUS RUqIrLrMMU2rSHqUr TIMES BADr2s CROSSING LU2tGUNU TIMES ASH
tOPPOSING LU2tSHESHIGzG TIMES BADuQUAREDtTENUuIMES ALzBADzDISHzESH2zESH2 PLUS LALzESH2 TENUzGAN2 TENUzHAL
zHI TIMES BADzIMzKAD2zKAD3zKAD3 PLUS ASHzKIzLA PLUS ASHzLAGABzME PLUS ENzNEzNUzPAPzPAP PLUS PAP PLUS LU3zSHU
zSI PLUS ASHzSIK2 PLUS BUzTAK4zTUG2r3rGALu OPPOSING LUGALwVER LUGALvSHESHIGrHrLrMs OVER LUMzUM GAR OVER GAR
pMAr GUNUsTIMES TAK4r2rHrRrSHt2qErSsHqIr PLUS ZA7rNqUr OVER MUrGs GUNUrNSUBrRGU2rSHt CROSSING MUSHuOVER MUSH
zMUSH TIMES A PLUS NAzMUSH TIMES GAzMUSH TIMES KAKuTIMES Az KURz ZAt3u GUNUvTIMES AzS A PLUS DIzS DIzS ZApNA
r2r4rGAt INVERTEDuOPPOSING NAGAuTIMES SHU TENUtRrMs NUTILLUs2qEr SHESHIGsTIMES AyUDqIr TIMES Er2rM
s TIMES GAN2 TENUzGAR PLUS GAN2 TENUrNs9sDA2v TIMES ANzES ASHzES ASH PLUS ASHzES BALzES DIM GUNUzES GI
zES GISHzES GUDzES GULzES HIzES KESH2zES LAK-050zES MASHzES ME PLUS GAN2 TENUzES NEzES NUNzES PAP PLUS PAP
zES SHEzES SHE PLUS A ANzES SHE PLUS ASHzES SHE PLUS ASH PLUS ASHzES UzES U PLUS UzES U2 PLUS ASHzES URUDA
zES USHrSAGqUr11t OVER NU11 BUR OVER BURuROTATED NINETY DEGREESuTENUrNs CROSSING NUNzNG NUN LAGAR OVER LAGAR
tLAGAR TIMES GARzTIMES MASHzTIMES SALzTIMES SAL OVER NUN LAGAR TIMES SALzTIMES USHtOVER NUNtTENUsUZ
u AB2 TIMES ASHGABzTIMES BIzTIMES DUGzTIMES GUDzTIMES IGI GUNUzTIMES KAD3zTIMES LAzTIMES NEzTIMES SILA3
zTIMES U2vKISIM5 TIMES BIzM5 TIMES BI UpPArDrNrPqESH2u ASTERISKqIr CROSSING PIsTIMES AzByBIzUyEyIzByUz2rR2
sIGu OPPOSING PIRIGvTIMES KALzS UDzS ZApRArBqIqUpSArGs GUNUx TIMES HAtNUTILLUtOVER SAGtTIMES AzDUzDUBzENzHA
zIGI GUNUzKAKzKURzLUMzMIzNUNzSALzSHE AT LEFTzSHIDzTABzTAK4zU2zUBzUMzURzUSHrLs LAGAB TIMES ASH2rNGA2rRqHAs3
t TIMES Az BADz GISHz NEz SHU2z TURz Uz U PLUS As6t TENUsB6sR2rEs HUtOVER SHEzHE GAD OVER GAD GAR OVER GAR
zHE TAB OVER TAB GAR OVER GARtPLUS HUB2yNAM2ySARsG9sNsSHu2uLAMrIDt TIMES Az IMsMt TIMES Az BALz BULUGz DIN
z GARz IGIz IGI GUNUz KUSHU2z LULz MUGz SALsNIGsRt OVER SHIR BUR OVER BURuTENUsTArUs OVER INVERTED SHUs2
t PLUS DUG TIMES NIzE2 TIMES ANsBURqIr GUNUsTIMES TAK4rGs4t OVER SIG4 SHU2rK2rLA3qUr OVER SUrDs2rHURrMsASHrR
s9pTAr ASTERISKsGUNUsTIMES HIyMIrBs OVER TAB NI OVER NI DISH OVER DISHtSQUAREDrGs TIMES BIzGUDzSHEzSHUzTUG2
zUDrK4t PLUS SAGrRqEr GUNUqIr TENUr2rLrRs OVER TIRzIR GAD OVER GAD GAR OVER GARtTIMES TAK4qUrG2rKrM
s TIMES GAN2 TENUzTHREE DISHrRs OVER TUR ZA OVER ZApUq GUDrOVER U PA OVER PA GAR OVER GARySUR OVER SUR
yU REVERSED OVER U REVERSEDrUs Uq2qBqDr GUNUsKUSHU2sSHESHIGz TIMES BADsTIMES BADyMIyU PLUS U PLUS U
z PLUS U PLUS U GUNUrUGqMr TIMES LAGAByMEzE PLUS DAySHA3yUrBINrUMt TIMES KASKALz PAqNr GUNUqRr CROSSING UR
sSHESHIGr2s INVERTEDtTIMES A PLUS HAzA PLUS NAzALzHAzNUNzU2zU2 PLUS ASHzU2 PLUS BIzUDr4rIs3rUs TIMES A
zASHGABzBARzDARA3zDUNzGAzGALzGAN2 TENUzGARzGUzHAzIGIzIMzISHzKIzLAK-668zLU3zLUMzMINzPAzSHEzSIG4zTUzU PLUS GUD
zUDzURUDAsDAu TIMES UqSHs TIMES AzKUzKURzTAK4s2sUMXsXqTUKIqZ3s TIMES KASKALrUpZAr SQUARED TIMES KURsTENUr7rG
rMXqE2qIr OVER ZIr3rBs KABA TENUrGrZ2qUr OVER ZU PLUS SARr5s TIMES AzTHREE DISH TENUrBURrMcP ON BLACK SQUARE
eWITH STRAWdCAKEdIDOcRLING STONEeY BRACKET EXTENSIONgLOGICAL ANDoORiOPdRENCY EXCHANGEjSIGNeY AND RICE
dVED STEM PARAGRAPH SIGN ORNAMENTcSTARDeOMScT OF MEATbYCLONEcLINDRICITYcPRIOT SYLLABLE ArErIrJAsOrKAsEsIsOsU
rLAsEsIsOsUrMAsEsIsOsUrNAsEsIsOsUrOrPAsEsIsOsUrRAsEsIsOsUrSAsEsIsOsUrTAsEsIsOsUrUrWAsEsIsOrXAsErZAsO
eO-MINOAN SIGN CM001w2w4w5w6w7w8w9v10w1w2xBw3w5w7w9v21w3w4w5w6w7w8w9v30w3w4w5w6w7w8w9v40w1w4w6w7w9v50w1w2w3
w4w5w6w8w9v60w1w2w3w4w6w7w8w9v70w1w2w3w4w5xBw6w8w9v80w1w2w3w4w5w6w7w8w9v90w1w2w4w5w6w7w8w9u100w1w2w3w4w5w7w8
w9v10w2w4u301w2cRILLIC CAPITAL LETTER Az WITH BREVEz WITH DIAERESISzBKHASIAN CHEzBKHASIAN CHE WITH DESCENDER
zBKHASIAN DZEzBKHASIAN HAzLEUT KAyBARRED OzARRED O WITH DIAERESISzASHKIR KAzEzIG YUSzINOCULAR OzLENDED YUS
zROAD OMEGAzYELORUSSIAN-UKRAINIAN IyCCHEzHEzHE WITH DESCENDERzHE WITH DIAERESISzHE WITH VERTICAL STROKE
zLOSED LITTLE YUSzROSSED OyDCHEzEzJEzJERVzOUBLE MONOCULAR OzOUBLE OzWEzZEzZELOzZHEzZWEzZZEzZZHEyE
z WITH DIAERESISzFzLzL WITH DESCENDERzL WITH HOOKzL WITH MIDDLE HOOKzL WITH TAILzMzM WITH TAILzN
zN WITH DESCENDERzN WITH HOOKzN WITH LEFT HOOKzN WITH MIDDLE HOOKzN WITH TAILzRzR WITH TICKzS
zS WITH DESCENDERyFITAyGHEzHE WITH DESCENDERzHE WITH MIDDLE HOOKzHE WITH STROKEzHE WITH STROKE AND HOOK
zHE WITH UPTURNzJEyHAzA WITH DESCENDERzA WITH HOOKzA WITH STROKEzARD SIGNzWEyIz WITH DIAERESISz WITH GRAVE
z WITH MACRONzEzE WITH BREVEzE WITH GRAVEzOzOTAzOTIFIED AzOTIFIED BIG YUSzOTIFIED CLOSED LITTLE YUS
zOTIFIED EzOTIFIED LITTLE YUSzOTIFIED YATzZHITSAzZHITSA WITH DOUBLE GRAVE ACCENTyJEyKAzA WITH DESCENDER
zA WITH HOOKzA WITH STROKEzA WITH VERTICAL STROKEzHAKASSIAN CHEzJEzOMI DEzOMI DJEzOMI DZJEzOMI LJEzOMI NJE
zOMI SJEzOMI TJEzOMI ZJEzOPPAzSIyLHAzITTLE YUSzJEyMONOCULAR OzONOGRAPH UKyNEUTRAL YERzJEyOz WITH DIAERESIS
zMEGAzMEGA WITH TITLOzTyPEzE WITH DESCENDERzE WITH MIDDLE HOOKzSIyQAyREVERSED DZEzEVERSED TSEzEVERSED YU
zEVERSED ZEzHAzOUND OMEGAySCHWAzCHWA WITH DIAERESISzEMISOFT SIGNzHAzHCHAzHHAzHHA WITH DESCENDERzHORT I
zHORT I WITH TAILzHORT UzHWEzOFT DEzOFT ELzOFT EMzOFT SIGNzTRAIGHT UzTRAIGHT U WITH STROKEyTCHEzE
zE WITH DESCENDERzE WITH MIDDLE HOOKzSEzSHEzSSEzSWEzWEyUz WITH DIAERESISz WITH DOUBLE ACUTEz WITH MACRONzK
zKRAINIAN IEyVEyWEyYAzAEzATzERUzERU WITH BACK YERzERU WITH DIAERESISzIzNzUyZEzE WITH DESCENDER
zE WITH DIAERESISzEMLYAzHEzHE WITH BREVEzHE WITH DESCENDERzHE WITH DIAERESISzHWEsIGATURE A IEz EN GHE
z TE TSEjKAVYKAjLETTER MULTIOCULAR OqPALOCHKAqSMALL CAPITAL ELjPAYEROKjSMALL LETTER Ax WITH BREVE
zITH DIAERESISxBKHASIAN CHEzHASIAN CHE WITH DESCENDERzHASIAN DZEzHASIAN HAxLEUT KAwBARRED O
zRED O WITH DIAERESISySHKIR KAxExIG YUSyNOCULAR OxLENDED YUSxROAD OMEGAxYELORUSSIAN-UKRAINIAN IwCCHExHE
z WITH DESCENDERz WITH DIAERESISz WITH VERTICAL STROKExLOSED LITTLE YUSxROSSED OwDCHExExJEzRV
xOUBLE MONOCULAR OzBLE OxWExZEzLOyHEyWEyZEzHEwEx WITH DIAERESISxFxLy WITH DESCENDERzWITH HOOK
zWITH MIDDLE HOOKzWITH TAILxMy WITH TAILxNy WITH DESCENDERzWITH HOOKzWITH LEFT HOOKzWITH MIDDLE HOOK
zWITH TAILxRy WITH TICKxSy WITH DESCENDERwFITAwGHEz WITH DESCENDERz WITH MIDDLE HOOKz WITH STROKE
z WITH STROKE AND HOOKz WITH UPTURNxJEwHAy WITH DESCENDERzWITH HOOKzWITH STROKEyRD SIGNxWEwIx WITH DIAERESIS
zITH GRAVEzITH MACRONxEy WITH BREVEzWITH GRAVExOyTAzIFIED AzIFIED BIG YUSzIFIED CLOSED LITTLE YUSzIFIED E
zIFIED LITTLE YUSzIFIED YATxZHITSAzITSA WITH DOUBLE GRAVE ACCENTwJEwKAy WITH DESCENDERzWITH HOOKzWITH STROKE
zWITH VERTICAL STROKExHAKASSIAN CHExJExOMI DEzI DJEzI DZJEzI LJEzI NJEzI SJEzI TJEzI ZJEyPPAxSIwLHA
xITTLE YUSxJExONG-LEGGED DEwMONOCULAR OzOGRAPH UKwNARROW OxEUTRAL YERxJEwOx WITH DIAERESISxMEGA
zGA WITH TITLOxTwPALOCHKAxEy WITH DESCENDERzWITH MIDDLE HOOKxSIwQAwREVERSED DZEzERSED TSEzERSED YUzERSED ZE
xHAxOUND OMEGAzNDED VEwSCHWAzWA WITH DIAERESISxEMISOFT SIGNxHAyCHAyHAzA WITH DESCENDERyORT IzRT I WITH TAIL
zRT UyWExOFT DEzT ELzT EMzT SIGNxTRAIGHT UzAIGHT U WITH STROKEwTALL HARD SIGNzL TEzL YATxCHExE
y WITH DESCENDERzWITH MIDDLE HOOKxHREE-LEGGED TExSEyHEySEyWExWEwUx WITH DIAERESISzITH DOUBLE ACUTE
zITH MACRONxKyRAINIAN IExNBLENDED UKwVEwWExIDE ESwYAyEyTxERUzU WITH BACK YERzU WITH DIAERESISxIxNxUwZE
y WITH DESCENDERzWITH DIAERESISyMLYAxHEz WITH BREVEz WITH DESCENDERz WITH DIAERESISyWEqIGATURE A IEyEN GHE
yTE TSEjTHOUSANDS SIGN"

end LineScript.Text
